import HostRouting.Proofs.Url.Paths
import HostRouting.Url.Reader

/-!
# Endpoints behind a URL

Where the path of an endpoint is written behind a text and the whole is read as a URL, the text
alone decides what becomes of it, and this the same way for all endpoints. The reader goes through
the text part by part, and each part passes the endpoint on behind its own rest: so there is one
lemma for each part, and what they pass on is in `Leads`. Two things take the endpoint out of the
path. A question mark or a number sign keeps everything behind it from the path, and a scheme that
still waits for its authority takes the segment `api` for the host.
-/
namespace HostRouting.Url
open Text

section
variable {α : Type} {p : α → Bool} {c : α} {front back : List α}

theorem dropWhile_append_cons (h : p c = false) :
    (front ++ c :: back).dropWhile p = front.dropWhile p ++ c :: back := by
  have hback : (c :: back).dropWhile p = c :: back := by
    rw [List.dropWhile_cons, h]
    rfl
  rw [List.dropWhile_append, hback]
  split_ifs with hfront
  · rw [List.isEmpty_iff.mp hfront, List.nil_append]
  · rfl

theorem takeWhile_append_of_mem (hc : c ∈ front) (h : p c = false) :
    (front ++ back).takeWhile p = front.takeWhile p := by
  rw [List.takeWhile_append, if_neg]
  intro hlength
  have hall := (List.takeWhile_prefix p (l := front)).eq_of_length hlength
  rw [List.takeWhile_eq_self_iff.mp hall c hc] at h
  cases h

theorem takeWhile_append_cons (h : p c = false) :
    (front ++ c :: back).takeWhile p = front.takeWhile p := by
  rw [List.takeWhile_append]
  split_ifs with hfront
  · rw [List.takeWhile_cons, h, (List.takeWhile_prefix p).eq_of_length hfront]
    simp
  · rfl

end

/-- The text from its first sign on, without tabs and line ends. -/
def opening (t : Text) : Text :=
  (t.dropWhile isControlOrSpace).filter fun c => !(c = '\t' || c = '\n' || c = '\r')

/-- The text has no sign that ends a path. -/
def noPathEnd (t : Text) : Bool := t.all (!isPathEnd ·)

/-- Whether what follows the scheme ends where an authority starts that is not there yet. -/
def awaitsAuthority (kind : SchemeKind) (t : Text) : Bool :=
  match kind with
  | .special => t.all (isPathSlash .special)
  | .file => t.length = 1 && t.all (isPathSlash .file)
  | .other => t = ['/']

/-- Whether a path that is written behind the text belongs to the path of the URL. -/
def leavesPathOpen (t : Text) : Bool :=
  noPathEnd t &&
    !(readScheme? (opening t)).any fun found => awaitsAuthority (kindOf found.1) found.2

/-- What the names of endpoints are read as, in a place that may leave the path open: an error that
is the same for all, a path that ends with the endpoint, a path that is the same for all, or a path
that has lost its first segment. -/
inductive Leads (read : Text → Except UrlError Url) : Bool → Prop
  | refused {isOpen : Bool} (error : UrlError) :
      (∀ name, IsPlainName name → read name = .error error) → Leads read isOpen
  | kept :
      (∀ name, IsPlainName name → ∃ u base, read name = .ok u ∧ u.path = base ++ apiPath name ∧
        u.query = none) → Leads read true
  | hidden (path : Text) :
      (∀ name, IsPlainName name → ∃ u, read name = .ok u ∧ u.path = path) → Leads read false
  | taken :
      (∀ name, IsPlainName name → ∃ u, read name = .ok u ∧ u.path = '/' :: name) →
        Leads read false

section
variable {c : Char} {t u rest name path : Text} {scheme : Text} {kind : SchemeKind}
  {read read' : Text → Except UrlError Url} {isOpen : Bool}

theorem Leads.congr (h : Leads read isOpen)
    (hread : ∀ name, IsPlainName name → read' name = read name) : Leads read' isOpen := by
  cases h with
  | refused error h => exact .refused error fun name hn => (hread name hn).trans (h name hn)
  | kept h =>
      refine .kept fun name hn => ?_
      rw [hread name hn]
      exact h name hn
  | hidden path h =>
      refine .hidden path fun name hn => ?_
      rw [hread name hn]
      exact h name hn
  | taken h =>
      refine .taken fun name hn => ?_
      rw [hread name hn]
      exact h name hn

theorem noPathEnd_append (t u : Text) : noPathEnd (t ++ u) = (noPathEnd t && noPathEnd u) :=
  List.all_append

theorem noPathEnd_of_forall (h : ∀ c ∈ t, isPathEnd c = false) : noPathEnd t = true :=
  List.all_eq_true.mpr fun c hc => by rw [h c hc]; rfl

/-- A class of characters without the two signs has none that ends a path. -/
theorem isPathEnd_of_class {p : Char → Bool} (hquery : p '?' = false) (hfragment : p '#' = false)
    (h : p c = true) : isPathEnd c = false := by
  have hend : isPathEnd c = true → c = '?' ∨ c = '#' := by simp [isPathEnd]
  refine Bool.eq_false_iff.mpr fun hc => ?_
  rcases hend hc with rfl | rfl
  · exact Bool.false_ne_true (hquery.symm.trans h)
  · exact Bool.false_ne_true (hfragment.symm.trans h)

theorem isPathEnd_of_isPathSlash (h : isPathSlash kind c = true) : isPathEnd c = false :=
  isPathEnd_of_class (by cases kind <;> rfl) (by cases kind <;> rfl) h

theorem isPathEnd_of_mem_takeWhile {p : Char → Bool} (hquery : p '?' = false)
    (hfragment : p '#' = false) (hc : c ∈ t.takeWhile p) : isPathEnd c = false :=
  isPathEnd_of_class hquery hfragment (List.mem_takeWhile_imp hc)

/-- A start of the text in which no path ends need not be looked at. -/
theorem noPathEnd_dropWhile {p : Char → Bool} (hquery : p '?' = false) (hfragment : p '#' = false)
    (t : Text) : noPathEnd (t.dropWhile p) = noPathEnd t := by
  have hcut : noPathEnd (t.takeWhile p ++ t.dropWhile p) = noPathEnd t := by
    rw [List.takeWhile_append_dropWhile]
  have htake : noPathEnd (t.takeWhile p) = true :=
    noPathEnd_of_forall fun _ hc => isPathEnd_of_mem_takeWhile hquery hfragment hc
  rw [← hcut, noPathEnd_append, htake, Bool.true_and]

theorem noPathEnd_opening (t : Text) : noPathEnd (opening t) = noPathEnd t := by
  have hskip := noPathEnd_dropWhile (p := isControlOrSpace) rfl rfl t
  rw [← hskip, opening, noPathEnd, noPathEnd, List.all_filter]
  refine List.all_congr rfl fun c => ?_
  by_cases hc : c = '\t' ∨ c = '\n' ∨ c = '\r'
  · rcases hc with rfl | rfl | rfl
    · rfl
    · rfl
    · rfl
  · simp only [not_or] at hc
    simp [hc.1, hc.2.1, hc.2.2]

theorem noPathEnd_of_readScheme? (h : readScheme? t = some (scheme, rest)) :
    noPathEnd rest = noPathEnd t := by
  unfold readScheme? at h
  split at h
  · next hrest =>
      split_ifs at h
      cases h
      rw [← noPathEnd_dropWhile (p := isSchemeChar) rfl rfl t, hrest]
      rfl
  · cases h

namespace IsPlainName
variable (h : IsPlainName name)
include h

theorem noPathEnd_apiPath : noPathEnd (apiPath name) = true := by
  refine noPathEnd_of_forall fun c hc => ?_
  rcases mem_apiPath h.plain hc with rfl | hc
  · rfl
  · exact isPathEnd_of_class rfl rfl hc

theorem noPathEnd_name : noPathEnd ('/' :: name) = true := by
  have hapi : noPathEnd ('/' :: apiSegment ++ '/' :: name) = true := h.noPathEnd_apiPath
  rw [noPathEnd_append, Bool.and_eq_true] at hapi
  exact hapi.2

theorem isControlOrSpace_apiPath (hc : c ∈ apiPath name) : isControlOrSpace c = false := by
  have hplain : ∀ {c}, isPlainChar c = true → isControlOrSpace c = false :=
    forall_isPlainChar (P := fun c => isControlOrSpace c = false) (by decide +kernel)
  rcases mem_apiPath h.plain hc with rfl | hc
  · rfl
  · exact hplain hc

theorem cleanInput_append (t : Text) :
    cleanInput (t ++ apiPath name) = opening t ++ apiPath name := by
  have hend : dropEndWhile isControlOrSpace (t.dropWhile isControlOrSpace ++ apiPath name) =
      t.dropWhile isControlOrSpace ++ apiPath name := by
    rw [dropEndWhile_eq_self_iff, List.getLast?_append,
      List.getLast?_eq_some_getLast (apiPath_ne_nil name), Option.some_or]
    rintro c ⟨⟩
    exact h.isControlOrSpace_apiPath (List.getLast_mem _)
  have hkept : (apiPath name).filter (fun c => !(c = '\t' || c = '\n' || c = '\r')) =
      apiPath name := by
    refine List.filter_eq_self.mpr fun c hc => ?_
    have hvisible := h.isControlOrSpace_apiPath hc
    by_contra hblank
    simp only [Bool.not_eq_true, Bool.not_eq_false', Bool.or_eq_true, decide_eq_true_eq] at hblank
    rcases hblank with (rfl | rfl) | rfl
    · cases hvisible
    · cases hvisible
    · cases hvisible
  have hslash : isControlOrSpace '/' = false := rfl
  rw [cleanInput, apiPath, dropWhile_append_cons hslash, ← apiPath, hend, List.filter_append, hkept,
    opening]

end IsPlainName

theorem readScheme?_append (t path : Text) :
    readScheme? (t ++ '/' :: path) =
      (readScheme? t).map fun found => (found.1, found.2 ++ '/' :: path) := by
  have hslash : isSchemeChar '/' = false := rfl
  unfold readScheme?
  rw [dropWhile_append_cons hslash, takeWhile_append_cons hslash]
  cases t with
  | nil => rfl
  | cons c t =>
      cases (c :: t).dropWhile isSchemeChar with
      | nil => rfl
      | cons d rest =>
          by_cases hd : d = ':'
          · subst hd
            simp only [List.cons_append, List.head?_cons]
            split_ifs <;> rfl
          · simp [hd]

theorem withPath_of_noPathEnd {authority : Option Authority} {readPath : Text → Text}
    (h : noPathEnd t = true) :
    withPath scheme kind authority readPath t = ⟨scheme, authority, readPath t, none, none⟩ := by
  have hall : ∀ c ∈ t, (!isPathEnd c) = true := List.all_eq_true.mp h
  rw [withPath, List.dropWhile_eq_nil_iff.mpr hall, List.takeWhile_eq_self_iff.mpr hall]
  rfl

/-- The path is read from what stands in front of the first sign that ends it. -/
theorem leads_withPath {readPath : Text → Text} (authority : Text → Option Authority)
    (hkeeps : ∀ t name, IsPlainName name → ∃ base, readPath (t ++ apiPath name) =
      base ++ apiPath name) (t : Text) :
    Leads (fun name => .ok (withPath scheme kind (authority name) readPath (t ++ apiPath name)))
      (noPathEnd t) := by
  cases hopen : noPathEnd t with
  | true =>
      refine .kept fun name hn => ?_
      have hboth : noPathEnd (t ++ apiPath name) = true := by
        rw [noPathEnd_append, hopen, hn.noPathEnd_apiPath]
        rfl
      obtain ⟨base, hbase⟩ := hkeeps t name hn
      exact ⟨_, base, congrArg Except.ok (withPath_of_noPathEnd hboth), hbase, rfl⟩
  | false =>
      obtain ⟨c, hc, hend⟩ := List.all_eq_false.mp hopen
      have hend' : (!isPathEnd c) = false := Bool.eq_false_iff.mpr hend
      refine .hidden (readPath (t.takeWhile (!isPathEnd ·))) fun name _ => ⟨_, rfl, ?_⟩
      exact congrArg readPath (takeWhile_append_of_mem hc hend')

theorem leads_readPath (scheme : Text) (kind : SchemeKind) (authority : Text → Option Authority)
    (t : Text) :
    Leads (fun name =>
      .ok (withPath scheme kind (authority name) (readPath kind) (t ++ apiPath name)))
      (noPathEnd t) :=
  leads_withPath authority (fun t _ hn => hn.readPath_append kind t) t

/-- Of a host and a port nothing is handed on but a piece of them that follows a colon: the digits
of a port end at a backslash, and what comes after them stands in front of the path. -/
theorem readHostPort_cases (scheme : Text) (kind : SchemeKind) (t : Text) :
    (∃ error, ∀ rest, readHostPort scheme kind t rest = .error error) ∨
      ∃ host port between, (∀ c ∈ between, c ∈ t) ∧ (':' ∉ t → between = []) ∧
        ∀ rest, readHostPort scheme kind t rest = .ok (host, port, between ++ rest) := by
  unfold readHostPort
  dsimp only
  split
  · next error _ => exact .inl ⟨error, fun _ => rfl⟩
  · next host _ =>
      split
      · next port hport =>
          have hmem : ∀ c ∈ ':' :: port, c ∈ t := fun c hc => List.mem_of_mem_drop (by rwa [hport])
          split_ifs
          · exact .inl ⟨.emptyHost, fun _ => rfl⟩
          · split
            · next error _ => exact .inl ⟨error, fun _ => rfl⟩
            · refine .inr ⟨_, _, _, fun c hc => ?_, fun hcolon => ?_, fun _ => rfl⟩
              · exact hmem c (List.mem_cons_of_mem ':' (List.mem_of_mem_drop hc))
              · exact absurd (hmem ':' List.mem_cons_self) hcolon
      · exact .inr ⟨host, none, [], fun c hc => absurd hc List.not_mem_nil, fun _ => rfl,
          fun _ => rfl⟩

theorem mem_of_splitLast? {before after : Text} (h : splitLast? c t = some (before, after)) :
    ∀ d ∈ after, d ∈ t := by
  intro d hd
  unfold splitLast? splitFirst? at h
  split at h
  · cases h
  · cases h
    exact List.mem_reverse.mp (List.takeWhile_subset _ (List.mem_reverse.mp hd))

/-- The URL of an authority that is already cut off from what follows it. -/
def readCut (scheme : Text) (kind : SchemeKind) (authority rest : Text) : Except UrlError Url :=
  match splitLast? '@' authority with
  | none =>
    match readHostPort scheme kind authority rest with
    | .error error => .error error
    | .ok (host, port, rest) =>
      .ok (withPath scheme kind (some ⟨[], host, port⟩) (readPath kind) rest)
  | some (userinfo, hostPort) =>
    if userinfo.isEmpty && hostPort.isEmpty && !rest.isEmpty then .error .emptyHost
    else
      match readHostPort scheme kind hostPort rest with
      | .error error => .error error
      | .ok (host, port, rest) =>
        let userinfo := escapeUserinfo userinfo
        if host = .empty && !userinfo.isEmpty then .error .emptyHost
        else .ok (withPath scheme kind (some ⟨userinfo, host, port⟩) (readPath kind) rest)

theorem readAuthority_eq (scheme : Text) (kind : SchemeKind) (t : Text) :
    readAuthority scheme kind t =
      readCut scheme kind (t.takeWhile (!isAuthorityEnd kind ·))
        (t.dropWhile (!isAuthorityEnd kind ·)) := rfl

theorem leads_between {between : Text} (scheme : Text) (kind : SchemeKind)
    (authority : Option Authority) (hbetween : ∀ c ∈ between, isPathEnd c = false)
    (rest : Text) :
    Leads (fun name =>
      .ok (withPath scheme kind authority (readPath kind) (between ++ (rest ++ apiPath name))))
      (noPathEnd rest) := by
  have hleads := leads_readPath scheme kind (fun _ => authority) (between ++ rest)
  rw [noPathEnd_append, noPathEnd_of_forall hbetween, Bool.true_and] at hleads
  exact hleads.congr fun name _ => by rw [List.append_assoc]

theorem leads_readCut {authority : Text} (scheme : Text) (kind : SchemeKind)
    (hends : ∀ c ∈ authority, isPathEnd c = false) (rest : Text) :
    Leads (fun name => readCut scheme kind authority (rest ++ apiPath name)) (noPathEnd rest) := by
  have hrest : ∀ name, (rest ++ apiPath name).isEmpty = false := fun name =>
    List.isEmpty_eq_false_iff.mpr (List.append_ne_nil_of_right_ne_nil rest (apiPath_ne_nil name))
  unfold readCut
  split
  · rcases readHostPort_cases scheme kind authority with
      ⟨error, herror⟩ | ⟨host, port, between, hbetween, -, hok⟩
    · exact .refused error fun name _ => by rw [herror]
    · have hleads := leads_between scheme kind (some ⟨[], host, port⟩)
        (fun c hc => hends c (hbetween c hc)) rest
      exact hleads.congr fun name _ => by rw [hok]
  · next userinfo hostPort hsplit =>
      simp only [hrest, Bool.not_false, Bool.and_true]
      split_ifs with hempty
      · exact .refused .emptyHost fun name _ => rfl
      · rcases readHostPort_cases scheme kind hostPort with
          ⟨error, herror⟩ | ⟨host, port, between, hbetween, -, hok⟩
        · exact .refused error fun name _ => by rw [herror]
        · simp only [hok]
          split_ifs with hhost
          · exact .refused .emptyHost fun name _ => rfl
          · exact leads_between scheme kind _
              (fun c hc => hends c (mem_of_splitLast? hsplit c (hbetween c hc))) rest

theorem readAuthority_append (scheme : Text) (kind : SchemeKind) (t path : Text) :
    readAuthority scheme kind (t ++ '/' :: path) =
      readCut scheme kind (t.takeWhile (!isAuthorityEnd kind ·))
        (t.dropWhile (!isAuthorityEnd kind ·) ++ '/' :: path) := by
  have hslash : (!isAuthorityEnd kind '/') = false := rfl
  rw [readAuthority_eq, takeWhile_append_cons (p := (!isAuthorityEnd kind ·)) hslash,
    dropWhile_append_cons (p := (!isAuthorityEnd kind ·)) hslash]

theorem leads_readAuthority (scheme : Text) (kind : SchemeKind) (t : Text) :
    Leads (fun name => readAuthority scheme kind (t ++ apiPath name)) (noPathEnd t) := by
  have hauthority : ∀ c ∈ t.takeWhile (!isAuthorityEnd kind ·), isPathEnd c = false :=
    fun c hc => isPathEnd_of_mem_takeWhile (p := (!isAuthorityEnd kind ·)) rfl rfl hc
  have hleads := leads_readCut scheme kind hauthority (t.dropWhile (!isAuthorityEnd kind ·))
  rw [noPathEnd_dropWhile (p := (!isAuthorityEnd kind ·)) rfl rfl] at hleads
  exact hleads.congr fun name _ => readAuthority_append scheme kind t (apiSegment ++ '/' :: name)

/-- Where an authority starts right in front of the endpoint, the first segment becomes the host. -/
theorem leads_readAuthority_api (scheme : Text) (kind : SchemeKind) :
    Leads (fun name => readAuthority scheme kind (apiSegment ++ '/' :: name)) false := by
  have htake : apiSegment.takeWhile (!isAuthorityEnd kind ·) = apiSegment := by cases kind <;> rfl
  have hdrop : apiSegment.dropWhile (!isAuthorityEnd kind ·) = [] := by cases kind <;> rfl
  have hsplit : splitLast? '@' apiSegment = none := rfl
  rcases readHostPort_cases scheme kind apiSegment with
    ⟨error, herror⟩ | ⟨host, port, between, -, hbetween, hok⟩
  · refine .refused error fun name _ => ?_
    rw [readAuthority_append, htake, readCut, hsplit]
    simp only [herror]
  · refine .taken fun name hn => ⟨withPath scheme kind (some ⟨[], host, port⟩) (readPath kind)
      ('/' :: name), ?_, ?_⟩
    · rw [readAuthority_append, htake, hdrop, readCut, hsplit]
      simp only [hok, hbetween (by decide), List.nil_append]
    · rw [withPath_of_noPathEnd hn.noPathEnd_name]
      exact hn.readPath_name kind

/-- The URL of a file from behind the two slashes on. -/
def readFileHost (scheme : Text) (t : Text) : Except UrlError Url :=
  let written := t.takeWhile (!isAuthorityEnd .file ·)
  if isDriveLetter written then
    .ok (withPath scheme .file (some ⟨[], .empty, none⟩) (readPath .file) t)
  else
    let rest := t.dropWhile (!isAuthorityEnd .file ·)
    (fileHost written).map fun host =>
      withPath scheme .file (some ⟨[], if startsWithDrive rest then .empty else host, none⟩)
        (readPath .file) rest

theorem readFile_cons_cons (scheme : Text) (a b : Char) (t : Text) :
    readFile scheme (a :: b :: t) =
      if isPathSlash .file a && isPathSlash .file b then readFileHost scheme t
      else
        .ok (withPath scheme .file (some ⟨[], .empty, none⟩) (readPath .file) (a :: b :: t)) := rfl

theorem readFileHost_append (scheme : Text) (t path : Text) :
    readFileHost scheme (t ++ '/' :: path) =
      if isDriveLetter (t.takeWhile (!isAuthorityEnd .file ·)) then
        .ok (withPath scheme .file (some ⟨[], .empty, none⟩) (readPath .file) (t ++ '/' :: path))
      else
        (fileHost (t.takeWhile (!isAuthorityEnd .file ·))).map fun host =>
          let rest := t.dropWhile (!isAuthorityEnd .file ·) ++ '/' :: path
          withPath scheme .file (some ⟨[], if startsWithDrive rest then .empty else host, none⟩)
            (readPath .file) rest := by
  have hslash : (!isAuthorityEnd .file '/') = false := rfl
  rw [readFileHost, takeWhile_append_cons (p := (!isAuthorityEnd .file ·)) hslash,
    dropWhile_append_cons (p := (!isAuthorityEnd .file ·)) hslash]

theorem leads_readFileHost (scheme : Text) (t : Text) :
    Leads (fun name => readFileHost scheme (t ++ apiPath name)) (noPathEnd t) := by
  refine Leads.congr ?_ fun name _ => readFileHost_append scheme t (apiSegment ++ '/' :: name)
  split_ifs with hdrive
  · exact leads_readPath scheme .file _ t
  · cases fileHost (t.takeWhile (!isAuthorityEnd .file ·)) with
    | error error => exact .refused error fun _ _ => rfl
    | ok host =>
        rw [← noPathEnd_dropWhile (p := (!isAuthorityEnd .file ·)) rfl rfl t]
        exact leads_readPath scheme .file _ _

theorem leads_readFileHost_api (scheme : Text) :
    Leads (fun name => readFileHost scheme (apiSegment ++ '/' :: name)) false := by
  have htake : apiSegment.takeWhile (!isAuthorityEnd .file ·) = apiSegment := rfl
  have hdrop : apiSegment.dropWhile (!isAuthorityEnd .file ·) = [] := rfl
  refine Leads.congr ?_ fun name _ => readFileHost_append scheme apiSegment name
  rw [htake, hdrop, IsPlainName.api.isDriveLetter]
  simp only [Bool.false_eq_true, if_false, List.nil_append]
  cases fileHost apiSegment with
  | error error => exact .refused error fun _ _ => rfl
  | ok host =>
      refine .taken fun name hn => ⟨_, rfl, ?_⟩
      dsimp only
      rw [withPath_of_noPathEnd hn.noPathEnd_name]
      exact hn.readPath_name .file

/-- The first slash of the endpoint counts as the second of the two before an authority, if one
slash stands in front of it. -/
theorem leads_readFile (scheme rest : Text) :
    Leads (fun name => readFile scheme (rest ++ apiPath name))
      (noPathEnd rest && !awaitsAuthority .file rest) := by
  have hpath := leads_readPath scheme .file (fun _ => some ⟨[], .empty, none⟩)
  rcases rest with - | ⟨a, - | ⟨b, rest⟩⟩
  · refine (hpath []).congr fun name _ => ?_
    exact (readFile_cons_cons scheme '/' 'a' ('p' :: 'i' :: '/' :: name)).trans
      (if_neg (by decide))
  · have hread : ∀ name, readFile scheme ([a] ++ apiPath name) =
        if isPathSlash .file a then readFileHost scheme (apiSegment ++ '/' :: name)
        else .ok (withPath scheme .file (some ⟨[], .empty, none⟩) (readPath .file)
          ([a] ++ apiPath name)) := by
      intro name
      have hslash : isPathSlash .file '/' = true := rfl
      rw [List.singleton_append, apiPath, readFile_cons_cons, hslash, Bool.and_true]
    have hawaits : awaitsAuthority .file [a] = isPathSlash .file a := by simp [awaitsAuthority]
    simp only [hread, hawaits]
    split_ifs with hslash
    · rw [hslash, Bool.not_true, Bool.and_false]
      exact leads_readFileHost_api scheme
    · rw [Bool.eq_false_iff.mpr hslash, Bool.not_false, Bool.and_true]
      exact hpath [a]
  · have hawaits : awaitsAuthority .file (a :: b :: rest) = false := by simp [awaitsAuthority]
    simp only [List.cons_append, readFile_cons_cons, hawaits, Bool.not_false, Bool.and_true]
    split_ifs with hslashes
    · rw [Bool.and_eq_true] at hslashes
      have hopen : noPathEnd (a :: b :: rest) = noPathEnd rest := by
        simp [noPathEnd, isPathEnd_of_isPathSlash hslashes.1, isPathEnd_of_isPathSlash hslashes.2]
      rw [hopen]
      exact leads_readFileHost scheme rest
    · exact hpath (a :: b :: rest)

theorem readOther_cons {a : Char} (scheme : Text) (t : Text) (h : a ≠ '/') :
    readOther scheme (a :: t) =
      .ok (withPath scheme .other none (escape EscapeSet.controls) (a :: t)) := by
  rw [readOther]
  · rintro _ ⟨⟩
    exact h rfl
  · rintro _ ⟨⟩
    exact h rfl

theorem readOther_slash_cons {b : Char} (scheme : Text) (t : Text) (h : b ≠ '/') :
    readOther scheme ('/' :: b :: t) =
      .ok (withPath scheme .other none (readPath .other) ('/' :: b :: t)) := by
  rw [readOther]
  rintro _ ⟨⟩
  exact h rfl

theorem leads_readOther (scheme rest : Text) :
    Leads (fun name => readOther scheme (rest ++ apiPath name))
      (noPathEnd rest && !awaitsAuthority .other rest) := by
  rcases rest with - | ⟨a, rest⟩
  · exact leads_readPath scheme .other (fun _ => none) []
  by_cases ha : a = '/'
  · subst ha
    rcases rest with - | ⟨b, rest⟩
    · exact leads_readAuthority_api scheme .other
    by_cases hb : b = '/'
    · subst hb
      have hopen : (noPathEnd ('/' :: '/' :: rest) &&
          !awaitsAuthority .other ('/' :: '/' :: rest)) = noPathEnd rest := by
        simp [noPathEnd, awaitsAuthority, isPathEnd]
      rw [hopen]
      exact leads_readAuthority scheme .other rest
    · have hawaits : awaitsAuthority .other ('/' :: b :: rest) = false := by
        simp [awaitsAuthority]
      rw [hawaits, Bool.not_false, Bool.and_true]
      exact (leads_readPath scheme .other (fun _ => none) ('/' :: b :: rest)).congr
        fun name _ => readOther_slash_cons scheme (rest ++ apiPath name) hb
  · have hawaits : awaitsAuthority .other (a :: rest) = false := by simp [awaitsAuthority, ha]
    have hkeeps : ∀ t name, IsPlainName name → ∃ base,
        escape EscapeSet.controls (t ++ apiPath name) = base ++ apiPath name :=
      fun t name hn => ⟨_, hn.escape_append_apiPath t⟩
    rw [hawaits, Bool.not_false, Bool.and_true]
    exact (leads_withPath (fun _ => none) hkeeps (a :: rest)).congr
      fun name _ => readOther_cons scheme (rest ++ apiPath name) ha

theorem leads_readSpecial (scheme rest : Text) :
    Leads (fun name =>
      readAuthority scheme .special ((rest ++ apiPath name).dropWhile (isPathSlash .special)))
      (noPathEnd rest && !awaitsAuthority .special rest) := by
  cases hall : rest.all (isPathSlash .special) with
  | true =>
      have hleads := leads_readAuthority_api scheme .special
      rw [awaitsAuthority, hall, Bool.not_true, Bool.and_false]
      refine hleads.congr fun name _ => ?_
      rw [List.dropWhile_append_of_pos (List.all_eq_true.mp hall)]
      rfl
  | false =>
      obtain ⟨c, hc, hno⟩ := List.all_eq_false.mp hall
      have hmore : (rest.dropWhile (isPathSlash .special)).isEmpty = false := by
        rw [List.isEmpty_eq_false_iff]
        exact fun hnil => hno (List.dropWhile_eq_nil_iff.mp hnil c hc)
      rw [awaitsAuthority, hall, Bool.not_false, Bool.and_true,
        ← noPathEnd_dropWhile (p := isPathSlash .special) rfl rfl rest]
      refine (leads_readAuthority scheme .special _).congr fun name _ => ?_
      rw [List.dropWhile_append, hmore]
      rfl

/-- What becomes of an endpoint behind a text. -/
theorem leads_ofText (t : Text) :
    Leads (fun name => ofText (t ++ apiPath name)) (leavesPathOpen t) := by
  have hread : ∀ name, IsPlainName name → readScheme? (cleanInput (t ++ apiPath name)) =
      (readScheme? (opening t)).map fun found => (found.1, found.2 ++ apiPath name) := by
    intro name hn
    rw [hn.cleanInput_append]
    exact readScheme?_append _ _
  unfold leavesPathOpen
  cases hscheme : readScheme? (opening t) with
  | none =>
      rw [hscheme] at hread
      refine .refused .relativeWithoutBase fun name hn => ?_
      rw [ofText, hread name hn]
      rfl
  | some split =>
      obtain ⟨scheme, rest⟩ := split
      rw [hscheme] at hread
      rw [← noPathEnd_opening, ← noPathEnd_of_readScheme? hscheme]
      change Leads _ (noPathEnd rest && !awaitsAuthority (kindOf scheme) rest)
      cases hkind : kindOf scheme with
      | file =>
          refine (leads_readFile scheme rest).congr fun name hn => ?_
          simp only [ofText, hread name hn, Option.map_some, hkind]
      | special =>
          refine (leads_readSpecial scheme rest).congr fun name hn => ?_
          simp only [ofText, hread name hn, Option.map_some, hkind]
      | other =>
          refine (leads_readOther scheme rest).congr fun name hn => ?_
          simp only [ofText, hread name hn, Option.map_some, hkind]

example : leavesPathOpen "https://dp.example.com/x".toList = true := by decide
example : leavesPathOpen "https://dp.example.com?x".toList = false := by decide
example : leavesPathOpen "https:".toList = false := by decide

end
end HostRouting.Url
