import HostRouting.Proofs.Document.Reading
import HostRouting.Proofs.Document.Generated

/-!
# The blocks of a host as bindings

What the reader of bindings makes of the rows of a host. In a router block for a shared service all
lines but those of the names are silent, and a name is silent unless its tag begins like the line of
a server; so the rows are quiet. The rows of a service block are followed line by line: the comment
and the name are members of the section, the server stands in the body of the name, and the rest
says nothing. They are read as one binding, unless the tag holds a key of service bodies.
-/
namespace HostRouting
open Text BindingState

/-- A key of service bodies stands on the line of a service name only if it stands in the tag. -/
theorem reserved_name_iff (tag : Text) :
    reservedKeys.any (occursIn · (BlockKind.service.name tag ++ [':'])) =
      reservedKeys.any (occursIn · tag) := by
  have hkeys : ∀ key ∈ reservedKeys, '-' ∉ key ∧ occursIn key "service:".toList = false := by
    decide
  have hline : BlockKind.service.name tag ++ [':'] = tag ++ '-' :: "service:".toList := by
    simp only [BlockKind.name, List.append_assoc]
    rfl
  have hkey : ∀ key ∈ reservedKeys,
      (occursIn key (tag ++ '-' :: "service:".toList) = true ↔ occursIn key tag = true) := by
    intro key hmem
    obtain ⟨hdash, hends⟩ := hkeys key hmem
    rw [occursIn_iff_isInfix, isInfix_append_cons_iff hdash, ← occursIn_iff_isInfix,
      ← occursIn_iff_isInfix, hends]
    simp
  rw [hline, Bool.eq_iff_iff, List.any_eq_true, List.any_eq_true]
  exact exists_congr fun key => and_congr_right fun hmem => hkey key hmem

section
variable {line : Text}

theorem isBlank_row (hb : isBlank line = false) :
    isBlank (indentLine 4 (dropReturn line)) = false := by
  rw [isBlank_indentLine, isBlank_dropReturn, hb]

theorem indentOf_row (hb : isBlank line = false) :
    indentOf (indentLine 4 (dropReturn line)) = 4 + indentOf line := by
  rw [indentLine_of_not_isBlank 4 (by rw [isBlank_dropReturn, hb]), indentOf_replicate_append,
    indentOf_dropReturn]

theorem trim_row (line : Text) : trim (indentLine 4 (dropReturn line)) = trim line := by
  rw [trim_indentLine, trim_dropReturn]

theorem indentOf_of_trim (hl : trim line = line) : indentOf line = 0 := by
  have hhead := head?_of_trim hl
  cases line with
  | nil => rfl
  | cons c rest =>
      have hc : ¬ c = ' ' := by
        rintro rfl
        exact absurd (hhead ' ' rfl) (by decide)
      simp [indentOf, hc]

end

namespace BindingState

variable {state : BindingState} {line : Text}

/-- The header of a section that is opened anew opens it for the reader too. -/
theorem scan_servicesLine (rest : List Text) :
    outside.scan (Document.servicesLine :: rest) = (inServices 2).scan rest := by
  have hstep : outside.step Document.servicesLine = (inServices 2, none) := rfl
  rw [scan, hstep]
  exact List.nil_append _

/-- The row of a line at the margin is a member of the section of `services:`. -/
theorem scan_memberRow (hs : state.header? = some 2) (hne : line ≠ []) (hl : trim line = line)
    (rest : List Text) : state.scan (indentLine 4 (dropReturn line) :: rest) =
      state.pending.toList ++ (member 2 line).scan rest := by
  have hb : isBlank line = false := by
    rw [Bool.eq_false_iff, ne_eq, ← trim_eq_nil_iff, hl]
    exact hne
  have hi : indentOf (indentLine 4 (dropReturn line)) = 2 + nestWidth := by
    rw [indentOf_row hb, indentOf_of_trim hl]
    rfl
  rw [scan, step_of_member hs (isBlank_row hb) hi, trim_row, hl]

/-- The row of an indented line belongs to the body of a member. -/
theorem scan_bodyRow (hs : state.header? = some 2) (hb : isBlank line = false)
    (hl : 0 < indentOf line) (rest : List Text) :
    state.scan (indentLine 4 (dropReturn line) :: rest) =
      (deeper (trim line) state).scan rest := by
  have hi := indentOf_row hb
  have hn : indentOf (indentLine 4 (dropReturn line)) ≠ 2 + nestWidth := by
    rw [hi, nestWidth]
    omega
  rw [scan, step_of_deeper hs (isBlank_row hb) (by omega) hn, trim_row]
  rfl

end BindingState

theorem quiet_indentBlock {lines : List Text} (hn : ∀ l ∈ lines, '\n' ∉ l)
    (h : ∀ l ∈ lines, Silent l) : ∀ row ∈ indentBlock (ofLines lines) 4, Quiet row := by
  intro row hr
  refine ⟨?_, isShallow_of_mem_indentBlock (by decide) hr⟩
  rcases exists_of_mem_indentBlock hn hr with rfl | ⟨l, hl, rfl⟩
  · exact ⟨by decide, rfl⟩
  · refine ⟨?_, ?_⟩
    · rw [trim_row]
      exact (h l hl).closed
    · rw [trim_row]
      exact (h l hl).serverless

/-- No generated line opens a section of services. -/
theorem GeneratedLine.closed {plan : RoutingPlan} {policy : MatchPolicy} {e : Entity} {line : Text}
    (h : GeneratedLine plan policy e line) : trim line ≠ "services:".toList := by
  intro hl
  have hsign : ∀ c, isSpace c = false → c ∉ "services:".toList → c ∉ line := by
    intro c hvisible hc hmem
    have htrim := mem_trim hmem hvisible
    rw [hl] at htrim
    exact hc htrim
  rcases h.firstWord_mem with ⟨kind, rfl⟩ | ⟨t, ht, rfl⟩ | hword
  · obtain ⟨start, hstart⟩ := kind.comment_eq_cons e
    exact hsign '#' (by decide) (by decide) (by rw [hstart]; exact List.mem_cons_self)
  · have hdash : ∀ separate, ∀ t ∈ nameEndings separate, '-' ∈ t := by decide
    exact hsign '-' (by decide) (by decide) (List.mem_append_right _ (hdash _ t ht))
  · rw [firstWord_eq_takeWhile_trim, hl] at hword
    revert hword
    decide

namespace BindingState.Silent

variable {line : Text}

/-- A line is silent unless its first word is the header's or the one in front of a server. -/
theorem of_firstWord (h : firstWord line ∉ ["services:".toList, "-".toList]) : Silent line := by
  rw [firstWord_eq_takeWhile_trim] at h
  constructor
  · intro hl
    rw [hl] at h
    exact h (by decide)
  · rw [serverUrl?, Option.map_eq_none_iff]
    cases hp : "- url:".toList.isPrefixOf? (trim line) with
    | none => rfl
    | some rest =>
        rw [List.isPrefixOf?_eq_some_iff_append_eq] at hp
        rw [← hp] at h
        exact absurd (List.mem_cons_of_mem _ List.mem_cons_self) h

end BindingState.Silent

/-- No ending goes on with what a part of `- url:` begins with. -/
theorem not_isPrefix_ending (kind : BlockKind) {c : Text} (hc : c <:+ "- url:".toList)
    (hne : c ≠ []) (rest : Text) : ¬ c <+: kind.ending ++ rest := by
  have htwo : ∀ kind ∈ BlockKind.all, 2 ≤ kind.ending.length ∧
      ∀ c ∈ "- url:".toList.tails, c ≠ [] → ¬ c.take 2 <+: kind.ending := by decide
  obtain ⟨hlen, hoff⟩ := htwo kind kind.mem_all
  intro hp
  refine hoff c ((List.mem_tails _ _).mpr hc) hne ?_
  refine List.prefix_of_prefix_length_le ((List.take_prefix 2 c).trans hp)
    (List.prefix_append _ _) ?_
  exact (List.length_take_le 2 c).trans hlen

/-- A name is read as a server only if its tag begins like one. -/
theorem silent_name {policy : MatchPolicy} {e : Entity} (kind : BlockKind) (more : Text)
    (h : ¬ "- url:".toList <+: policy.tag e) :
    Silent (kind.name (policy.tag e) ++ more ++ [':']) := by
  have htrim := kind.trim_name_append policy e more
  constructor
  · intro hl
    have hdash : '-' ∈ kind.name (policy.tag e) ++ more ++ [':'] :=
      List.mem_append_left _ (List.mem_append_left _ (List.mem_append_right _ kind.dash_mem_ending))
    rw [← htrim, hl] at hdash
    exact absurd hdash (by decide)
  · rw [htrim, serverUrl?, Option.map_eq_none_iff]
    cases hp : "- url:".toList.isPrefixOf? (kind.name (policy.tag e) ++ more ++ [':']) with
    | none => rfl
    | some rest =>
        rw [List.isPrefixOf?_eq_some_iff_append_eq, BlockKind.name, List.append_assoc,
          List.append_assoc] at hp
        rcases List.append_eq_append_iff.mp hp with ⟨c, hc, -⟩ | ⟨c, hc, hrest⟩
        · exact absurd ⟨c, hc.symm⟩ h
        · have hne : c ≠ [] := by
            rintro rfl
            exact h ⟨[], by simpa using hc⟩
          exact absurd ⟨rest, hrest.symm⟩ (not_isPrefix_ending kind ⟨_, hc.symm⟩ hne _)

namespace RoutingPlan

variable {plan : RoutingPlan} {policy : MatchPolicy} {e : Entity} {d d' : Document}
  {state : BindingState} {rest : List Text}

/-- All lines of a router but that of its name are silent, if its attachment is. -/
theorem silent_of_router {r : Router} {l : Text} (hattached : ∀ l ∈ r.attachment.lines, Silent l)
    (h : l ∈ r.lines) : l = r.name ++ [':'] ∨ Silent l := by
  rcases Router.mem_lines.mp h with rfl | rfl | rfl | h | h | rfl
  · exact .inl rfl
  · have hword : firstWord ("  rule: ".toList ++ r.rule) = "rule:".toList := rfl
    exact .inr (.of_firstWord (by rw [hword]; decide))
  · have hword : firstWord ("  service: ".toList ++ r.service) = "service:".toList := rfl
    exact .inr (.of_firstWord (by rw [hword]; decide))
  · exact .inr (hattached l h)
  · cases hr : r.certResolver with
    | none => simp [hr, Router.tlsLines] at h
    | some resolver =>
        rw [hr] at h
        rcases List.mem_pair.mp h with rfl | rfl
        · exact .inr ⟨by decide, by decide⟩
        · have hword : firstWord ("    certResolver: ".toList ++ resolver) =
              "certResolver:".toList := rfl
          exact .inr (.of_firstWord (by rw [hword]; decide))
  · exact .inr ⟨by decide, rfl⟩

/-- In a block for a shared service only the lines of names need not be silent. -/
theorem silent_of_mem_routerLines {l : Text} (hs : plan.separate = false)
    (h : l ∈ plan.routerLines policy e) :
    (∃ more ∈ [[], "-websecure".toList],
      l = BlockKind.router.name (policy.tag e) ++ more ++ [':']) ∨ Silent l := by
  have hentry : ∀ a ∈ [webEntryPoint, secureEntryPoint], ∀ l ∈ a.lines, Silent l := by
    intro a ha l hl
    have hfixed : ∀ a ∈ [webEntryPoint, secureEntryPoint], ∀ l ∈ a.lines,
        trim l ≠ "services:".toList ∧ serverUrl? (trim l) = none := by decide
    exact ⟨(hfixed a ha l hl).1, (hfixed a ha l hl).2⟩
  have hgroups : plan.groups policy e = [_] := if_neg (by simp [hs])
  rw [routerLines_eq_flatMap, hgroups, List.flatMap_singleton] at h
  rcases RouterGroup.mem_lines.mp h with rfl | ⟨r, hr, hl⟩
  · refine .inr (.of_firstWord ?_)
    rw [BlockKind.firstWord_comment]
    decide
  · obtain ⟨more, hmore, hname⟩ := RouterGroup.exists_name_eq hr
    have hattached : ∀ l ∈ r.attachment.lines, Silent l := by
      rcases List.mem_pair.mp hr with rfl | rfl
      · exact hentry _ (by simp)
      · exact hentry _ (by simp)
    rcases silent_of_router hattached hl with rfl | hsilent
    · exact .inl ⟨more, hmore, by rw [hname]⟩
    · exact .inr hsilent

/-- A tag that does not begin like the line of a server leaves all of the block silent. -/
theorem silent_routerLines {l : Text} (hs : plan.separate = false)
    (htag : ¬ "- url:".toList <+: policy.tag e) (h : l ∈ plan.routerLines policy e) :
    Silent l := by
  rcases silent_of_mem_routerLines hs h with ⟨more, -, rfl⟩ | hsilent
  · exact silent_name .router more htag
  · exact hsilent

/-- With a tag that does begin so, no line of the routers reads as the name of the service. -/
theorem not_serviceName_routerLines {l : Text} (hs : plan.separate = false)
    (htag : "- url:".toList <+: policy.tag e) (h : l ∈ plan.routerLines policy e) :
    trim l ≠ BlockKind.service.name (policy.tag e) ++ [':'] := by
  intro htrim
  rcases silent_of_mem_routerLines hs h with ⟨more, hmore, rfl⟩ | hsilent
  · rw [BlockKind.trim_name_append, BlockKind.name, BlockKind.name, List.append_assoc,
      List.append_assoc, List.append_assoc, List.append_cancel_left_eq] at htrim
    have hoff : ∀ more ∈ [[], "-websecure".toList],
        BlockKind.router.ending ++ (more ++ [':']) ≠ BlockKind.service.ending ++ [':'] := by decide
    exact hoff more hmore htrim
  · obtain ⟨rest, hrest⟩ := htag
    have hserver := hsilent.serverless
    rw [htrim, BlockKind.name, ← hrest, List.append_assoc, List.append_assoc, serverUrl?,
      List.isPrefixOf?_eq_some_iff_append_eq.mpr rfl] at hserver
    cases hserver

/-- Where the shared service is reached. -/
def serverUrl (plan : RoutingPlan) : Text :=
  "http://".toList ++ plan.backend ++ [':'] ++ Text.ofNat plan.port.toNat

theorem serverUrl_eq_cons (plan : RoutingPlan) : ∃ rest, plan.serverUrl = 'h' :: rest := ⟨_, rfl⟩

theorem isSpace_getLast?_serverUrl (plan : RoutingPlan) :
    ∀ c ∈ plan.serverUrl.getLast?, isSpace c = false := by
  intro c hc
  have hlast : plan.serverUrl.getLast? = (Text.ofNat plan.port.toNat).getLast? := by
    unfold serverUrl
    exact List.getLast?_append_of_ne_nil _ Nat.toDigits_ne_nil
  rw [hlast] at hc
  have hmem := List.mem_of_mem_getLast? hc
  exact isSpace_of_isDigit (isDigit_of_mem_ofNat hmem)

/-- A text that begins visibly and has the server behind it is its own trimming. -/
theorem trim_append_serverUrl {lead : Text} (h : ∀ c ∈ lead.head?, isSpace c = false) :
    trim (lead ++ plan.serverUrl) = lead ++ plan.serverUrl := by
  obtain ⟨more, hurl⟩ := plan.serverUrl_eq_cons
  apply trim_eq_self
  · cases lead with
    | nil =>
        rw [List.nil_append, hurl]
        exact head?_cons_visible (by decide)
    | cons first more => exact h
  · rw [List.getLast?_append_of_ne_nil _ (by rw [hurl]; exact List.cons_ne_nil _ _)]
    exact plan.isSpace_getLast?_serverUrl

/-- The line of the server gives it as it is. -/
theorem serverUrl?_line (plan : RoutingPlan) :
    serverUrl? (trim ("    - url: ".toList ++ plan.serverUrl)) = some plan.serverUrl := by
  obtain ⟨more, hurl⟩ := plan.serverUrl_eq_cons
  have hline : trim ("    ".toList ++ ("- url: ".toList ++ plan.serverUrl)) =
      "- url: ".toList ++ plan.serverUrl := by
    have hdash : ∀ c ∈ "- url: ".toList.head?, isSpace c = false :=
      head?_cons_visible (by decide : isSpace '-' = false)
    rw [trim_append_left _ (by decide), trim_append_serverUrl hdash]
  have hcut : "- url:".toList.isPrefixOf? ("- url: ".toList ++ plan.serverUrl) =
      some ([' '] ++ plan.serverUrl) := List.isPrefixOf?_eq_some_iff_append_eq.mpr rfl
  have hvalue : trim ([' '] ++ plan.serverUrl) = plan.serverUrl := by
    rw [trim_append_left _ (by decide)]
    have hown : trim ([] ++ plan.serverUrl) = [] ++ plan.serverUrl :=
      trim_append_serverUrl (by simp)
    exact hown
  have hquoted : unquote plan.serverUrl = plan.serverUrl := by
    rw [hurl]
    rfl
  change serverUrl? (trim ("    ".toList ++ ("- url: ".toList ++ plan.serverUrl))) = _
  rw [hline, serverUrl?, hcut, Option.map_some, hvalue, hquoted]

/-- The binding that the service block of a host is read as. -/
def binding? (plan : RoutingPlan) (policy : MatchPolicy) (e : Entity) : Option ServiceBinding :=
  if reservedKeys.any (occursIn · (policy.tag e)) then none
  else some ⟨BlockKind.service.name (policy.tag e), plan.serverUrl⟩

/-- The member line of the service and the server under it make the binding. -/
theorem pending_member_server (plan : RoutingPlan) (policy : MatchPolicy) (e : Entity) :
    (deeper (trim ("    - url: ".toList ++ plan.serverUrl))
      (member 2 (BlockKind.service.name (policy.tag e) ++ [':']))).pending =
        plan.binding? policy e := by
  have hne : (BlockKind.service.name (policy.tag e)).isEmpty = false := by
    rw [List.isEmpty_eq_false_iff]
    exact List.append_ne_nil_of_right_ne_nil _ (by decide)
  unfold member binding?
  rw [serviceName?_append, reserved_name_iff, hne, Bool.false_or]
  split_ifs
  · rfl
  · dsimp only [deeper]
    rw [serverUrl?_line]
    rfl

theorem serviceRows_eq (he : '\n' ∉ e.host) (hb : '\n' ∉ plan.backend) :
    plan.serviceRows policy e =
      [BlockKind.service.comment e, BlockKind.service.name (policy.tag e) ++ [':'],
        "  loadBalancer:".toList, "    servers:".toList, "    - url: ".toList ++ plan.serverUrl,
        "    passHostHeader: true".toList].map (fun l => indentLine 4 (dropReturn l)) ++ [[]] := by
  have hrows := indentBlock_ofLines 4
    fun l (hl : l ∈ plan.serviceLines policy e) => newline_not_mem_serviceLines he hb hl
  have hlines : plan.serviceLines policy e =
      [BlockKind.service.comment e, BlockKind.service.name (policy.tag e) ++ [':'],
        "  loadBalancer:".toList, "    servers:".toList, "    - url: ".toList ++ plan.serverUrl]
      ++ ["    passHostHeader: true".toList] ++ [[]] := rfl
  refine hrows.trans ?_
  rw [hlines, List.map_append, List.map_append, List.map_singleton, List.map_singleton,
    dropEndWhile_append_singleton, if_pos (by decide), dropEndWhile_append_singleton,
    if_neg (by decide)]
  rfl

/-- Under `services:` the block of a host is read as its one binding, behind what was pending. -/
theorem scan_serviceRows (he : '\n' ∉ e.host) (hb : '\n' ∉ plan.backend)
    (hs : state.header? = some 2) (hrest : ∀ l ∈ rest.head?, isShallow 2 l = true) :
    state.scan (plan.serviceRows policy e ++ rest) =
      state.pending.toList ++ ((plan.binding? policy e).toList ++ outside.scan rest) := by
  let named := member 2 (BlockKind.service.name (policy.tag e) ++ [':'])
  let served := deeper (trim ("    - url: ".toList ++ plan.serverUrl)) named
  have hnamed : named.header? = some 2 := header?_member _ _
  have hserved : served.header? = some 2 := (header?_deeper _ _).trans hnamed
  have hwide : served.Wide := by
    intro h hh
    rw [hserved] at hh
    cases hh
    exact le_rfl
  have hcomment : BlockKind.service.comment e ≠ [] := by
    obtain ⟨start, hstart⟩ := BlockKind.service.comment_eq_cons e
    rw [hstart]
    exact List.cons_ne_nil _ _
  have hname : trim (BlockKind.service.name (policy.tag e) ++ [':']) =
      BlockKind.service.name (policy.tag e) ++ [':'] := by
    have htrim := BlockKind.service.trim_name_append policy e []
    rwa [List.append_nil] at htrim
  have hserver : isBlank ("    - url: ".toList ++ plan.serverUrl) = false :=
    not_isBlank_of_mem (c := '-') (List.mem_append_left _ (by decide)) (by decide)
  have hdeep : indentOf ("    - url: ".toList ++ plan.serverUrl) = 4 := rfl
  rw [serviceRows_eq he hb]
  simp only [List.map_cons, List.map_nil, List.cons_append, List.nil_append]
  rw [scan_memberRow hs hcomment (BlockKind.service.trim_comment e),
    scan_memberRow (header?_member _ _) (by simp) hname, pending_member,
    scan_bodyRow hnamed (by decide) (by decide), deeper_of_none (by decide),
    scan_bodyRow hnamed (by decide) (by decide), deeper_of_none (by decide),
    scan_bodyRow hnamed hserver (by rw [hdeep]; decide),
    scan_bodyRow hserved (by decide) (by decide), deeper_of_none (by decide)]
  have hend : served.scan ([] :: rest) = served.scan rest :=
    scan_of_isBlank served (by decide : ∀ l ∈ [[]], isBlank l = true) rest
  have hsaid : served.pending = plan.binding? policy e := pending_member_server plan policy e
  exact congrArg (state.pending.toList ++ ·) (by rw [hend, hwide.scan hrest, hsaid]; rfl)

end RoutingPlan

end HostRouting
