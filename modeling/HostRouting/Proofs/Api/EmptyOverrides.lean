import HostRouting.Api.Calls
import HostRouting.Proofs.Hosts.Operations
import HostRouting.Proofs.Hosts.Resolution

/-!
# Requests that override nothing

Overrides that are absent or blank resolve as no overrides do and are reported as none, so an
operation does the same with them as without them. An endpoint with overrides reads more of a body
than the one without: it needs an object, takes no override twice, and has to hold whatever stands
beside the host. A body that it can hold and that overrides nothing is the same request to both,
under every reader of bodies that reads records.
-/
namespace HostRouting
open Text

section
variable {o : Overrides} {given : Option Text}

theorem pick_of_unnamed (h : Unnamed given) (default : Text) : pick given default = default := by
  rcases pick_cases given default with ⟨-, hpick⟩ | ⟨hgiven, -⟩
  · exact hpick
  · exact absurd h hgiven

namespace Overrides

theorem isEmpty_iff : o.isEmpty = true ↔
    (Unnamed o.apiKey ∧ Unnamed o.apiDomain ∧ Unnamed o.applicationId ∧
      Unnamed o.backendService ∧ Unnamed o.frontendService ∧ Unnamed o.serviceName) ∧
      o.servicePort = none ∧ o.skipMiddlewares = none := by
  simp only [isEmpty, List.all_cons, List.all_nil, Bool.and_true, Bool.and_eq_true,
    Option.isNone_iff_eq_none, bind_nonBlank?_eq_none_iff, Unnamed, and_assoc]

theorem resolveTarget_of_isEmpty (h : o.isEmpty = true) (d : Defaults) :
    o.resolveTarget d = ({} : Overrides).resolveTarget d := by
  obtain ⟨⟨hkey, hdomain, happlication, -⟩, -⟩ := isEmpty_iff.mp h
  simp only [resolveTarget, pick_of_unnamed hkey, pick_of_unnamed hdomain,
    pick_of_unnamed happlication, pick_of_unnamed unnamed_none]

theorem plan_of_isEmpty (h : o.isEmpty = true) (r : RoutingConfig) :
    o.plan r = ({} : Overrides).plan r := by
  obtain ⟨⟨-, -, -, hbackend, hfrontend, hservice⟩, hport, hskip⟩ := isEmpty_iff.mp h
  have hunnamed : o.serviceName.bind nonBlank? = none := bind_nonBlank?_eq_none_iff.mpr hservice
  simp only [plan, sharedService?, planFor, hunnamed, hport, hskip, pick_of_unnamed hbackend,
    pick_of_unnamed hfrontend, pick_of_unnamed unnamed_none, Option.bind_none]

theorem resolve_of_isEmpty (h : o.isEmpty = true) (d : Defaults) :
    o.resolve d = ({} : Overrides).resolve d := by
  rw [resolve, resolve, plan_of_isEmpty h, resolveTarget_of_isEmpty h]

end Overrides

theorem changeMessage_of_isEmpty (h : o.isEmpty = true) (verb : Text) (e : Entity)
    (acknowledgement : Text) :
    changeMessage verb e o acknowledgement = changeMessage verb e {} acknowledgement := by
  have hnone : o.isEmpty = ({} : Overrides).isEmpty := h
  unfold changeMessage
  rw [hnone]

namespace HostManager

variable {σ : Type} (m : HostManager σ)

theorem addHost_of_isEmpty (h : o.isEmpty = true) (d : Defaults) (hostname : Text) (s : σ) :
    m.addHost d hostname o s = m.addHost d hostname {} s := by
  simp only [addHost, addEntity, commit, Overrides.resolve_of_isEmpty h,
    changeMessage_of_isEmpty h]

theorem deleteHost_of_isEmpty (h : o.isEmpty = true) (d : Defaults) (hostname : Text) (s : σ) :
    m.deleteHost d hostname o s = m.deleteHost d hostname {} s := by
  simp only [deleteHost, commit, Overrides.resolveTarget_of_isEmpty h, changeMessage_of_isEmpty h]

end HostManager
end

namespace Api
open Json (optional text? bool? uint16?)

/-- The changes of a host, each with an endpoint without overrides and one with them. -/
inductive HostChange where
  | add
  | delete
  deriving DecidableEq, Repr

namespace HostChange

def plain : HostChange → Endpoint
  | add => .addHost
  | delete => .deleteHost

def custom : HostChange → Endpoint
  | add => .addHostCustom
  | delete => .deleteHostCustom

def call : HostChange → Text → Overrides → ServiceCall
  | add => .add
  | delete => .delete

theorem exists_of_map_eq_ok {ε α β : Type} {f : α → β} {x : Except ε α} {b : β}
    (h : x.map f = .ok b) : ∃ a, b = f a := by
  cases x with
  | error e => cases h
  | ok a => exact ⟨a, (Except.ok.inj h).symm⟩

variable {σ : Type} (change : HostChange) (m : HostManager σ)

theorem call?_plain (reader : BodyReader) (r : Http.Request) :
    change.plain.call? reader r = some (hostCall reader.plain change.call r) := by
  cases change <;> rfl

theorem call?_custom (reader : BodyReader) (r : Http.Request) :
    change.custom.call? reader r = some (hostCall reader.custom change.call r) := by
  cases change <;> rfl

theorem serve_of_isEmpty {o : Overrides} (h : o.isEmpty = true) (hostname : Text)
    (s : ServiceState σ) :
    m.serve (change.call hostname o) s = m.serve (change.call hostname {}) s := by
  cases change
  · rw [call, HostManager.serve, HostManager.serve, m.addHost_of_isEmpty h]
  · rw [call, HostManager.serve, HostManager.serve, m.deleteHost_of_isEmpty h]

/-- The endpoint does not show in the reply to a change. -/
theorem reply_custom {hostname : Text} {o : Overrides} {s s' : ServiceState σ}
    {answer : ServiceAnswer} (h : m.serve (change.call hostname o) s = (.ok answer, s')) :
    change.custom.reply answer = change.plain.reply answer := by
  obtain ⟨operation, rfl⟩ : ∃ operation, answer = .host operation := by
    cases change
    · exact exists_of_map_eq_ok (congrArg Prod.fst h)
    · exact exists_of_map_eq_ok (congrArg Prod.fst h)
  cases change <;> rfl

end HostChange

namespace HostRequest

variable {held : Json → Bool} {members : List (JsonString × Json)} {j : Json} {value : Option Json}

/-- How often an object gives a member. -/
def timesGiven (name : Text) (members : List (JsonString × Json)) : ℕ :=
  (members.map (·.1)).count (some name)

/-- The host is given at most once, as a text or as null. -/
structure NamesHost (members : List (JsonString × Json)) : Prop where
  once : timesGiven hostnameMember members ≤ 1
  text : ∀ v, (some hostnameMember, v) ∈ members → v = .null ∨ ∃ t, v = .text t

/-- Every override that the members give is null or, where it is a text, blank. The last two of the
overrides are a port and a switch. -/
structure OverridesNothing (members : List (JsonString × Json)) : Prop where
  text : ∀ name ∈ Overrides.memberNames.take 6, ∀ v, (some name, v) ∈ members →
    v = .null ∨ ∃ t, v = .text t ∧ isBlank t = true
  rest : ∀ name ∈ Overrides.memberNames.drop 6, ∀ v, (some name, v) ∈ members → v = .null

/-- An object that gives no override twice and whose members beside the host can be held. -/
def IsHeld (held : Json → Bool) : Json → Prop
  | .object members => othersHeld held members = true ∧
      ∀ name ∈ Overrides.memberNames, timesGiven name members ≤ 1
  | _ => False

theorem exists_optional_text (h : ∀ v ∈ value, v = .null ∨ ∃ t, v = .text t ∧ isBlank t = true) :
    ∃ given, optional text? value = some given ∧ Unnamed given := by
  cases value with
  | none => exact ⟨none, rfl, unnamed_none⟩
  | some v =>
      rcases h v rfl with rfl | ⟨t, rfl, ht⟩
      · exact ⟨none, rfl, unnamed_none⟩
      · exact ⟨some t, rfl, unnamed_some_iff.mpr ht⟩

theorem optional_eq_some_none {α : Type} (read : Json → Option α) (h : ∀ v ∈ value, v = .null) :
    optional read value = some none := by
  cases value with
  | none => rfl
  | some v => rw [h v rfl]; rfl

theorem mem_of_mem_lookup {name : JsonString} {v : Json} (h : v ∈ members.lookup name) :
    (name, v) ∈ members := by
  obtain ⟨before, after, rfl, -⟩ := List.lookup_eq_some_iff.mp h
  exact List.mem_append_right _ List.mem_cons_self

theorem OverridesNothing.exists_isEmpty (h : OverridesNothing members) :
    ∃ o, Overrides.ofFields? (Overrides.memberNames.map fun name => members.lookup (some name)) =
      some o ∧ o.isEmpty = true := by
  have htext : ∀ name ∈ Overrides.memberNames.take 6,
      ∃ given, optional text? (members.lookup (some name)) = some given ∧ Unnamed given :=
    fun name hname => exists_optional_text fun v hv => h.text name hname v (mem_of_mem_lookup hv)
  have hrest : ∀ name ∈ Overrides.memberNames.drop 6, ∀ v ∈ members.lookup (some name),
      v = .null :=
    fun name hname v hv => h.rest name hname v (mem_of_mem_lookup hv)
  simp only [Overrides.memberNames, List.take_succ_cons, List.take_zero, List.mem_cons,
    List.not_mem_nil, or_false, forall_eq_or_imp, forall_eq] at htext
  simp only [Overrides.memberNames, List.drop_succ_cons, List.drop_zero, List.mem_cons,
    List.not_mem_nil, or_false, forall_eq_or_imp, forall_eq] at hrest
  obtain ⟨⟨key, hkey, hk⟩, ⟨domain, hdomain, hd⟩, ⟨application, happlication, ha⟩,
    ⟨backend, hbackend, hb⟩, ⟨frontend, hfrontend, hf⟩, ⟨service, hservice, hs⟩⟩ := htext
  obtain ⟨hport, hskip⟩ := hrest
  refine ⟨⟨key, domain, application, backend, frontend, service, none, none⟩, ?_, ?_⟩
  · simp only [Overrides.memberNames, List.map_cons, List.map_nil, Overrides.ofFields?, hkey,
      hdomain, happlication, hbackend, hfrontend, hservice, optional_eq_some_none uint16? hport,
      optional_eq_some_none bool? hskip]
    rfl
  · exact Overrides.isEmpty_iff.mpr ⟨⟨hk, hd, ha, hb, hf, hs⟩, rfl, rfl⟩

theorem IsHeld.isSome (h : IsHeld held (.object members)) : members.all (·.1.isSome) = true := by
  rw [List.all_eq_true]
  intro m hm
  have hothers := List.all_eq_true.mp h.1 m hm
  by_cases hname : m.1 = some hostnameMember
  · rw [hname]
    rfl
  · rw [decide_eq_false hname, Bool.false_or] at hothers
    exact (Bool.and_eq_true_iff.mp hothers).1

/-- A request that names its host, is held and overrides nothing is read by both: as the same host,
with no overrides and with empty ones. -/
theorem reads_of_isHeld (hhost : NamesHost members) (h : OverridesNothing members)
    (hheld : IsHeld held (.object members)) :
    ∃ (hostname : Option Text) (o : Overrides), o.isEmpty = true ∧
      readPlain? (.object members) = some ⟨hostname, {}⟩ ∧
      readCustom? held (.object members) = some ⟨hostname, o⟩ := by
  obtain ⟨o, ho, hempty⟩ := h.exists_isEmpty
  obtain ⟨hostname, hread⟩ : ∃ hostname,
      optional text? (members.lookup (some hostnameMember)) = some hostname := by
    cases hlookup : members.lookup (some hostnameMember) with
    | none => exact ⟨none, rfl⟩
    | some v =>
        rcases hhost.text v (mem_of_mem_lookup hlookup) with rfl | ⟨t, rfl⟩
        · exact ⟨none, rfl⟩
        · exact ⟨some t, rfl⟩
  have honce : (Overrides.memberNames.all fun name =>
      decide ((members.map (·.1)).count (some name) ≤ 1)) = true := by
    simpa [timesGiven] using hheld.2
  have hhostOnce : (members.map (·.1)).count (some hostnameMember) ≤ 1 := hhost.once
  refine ⟨hostname, o, hempty, ?_, ?_⟩
  · simp [readPlain?, Json.fields?, Json.membersByName, hheld.isSome, hhostOnce, hread]
  · rw [readCustom?, if_pos hheld.1]
    simp [Json.membersByName, hheld.isSome, hhostOnce, honce, hread, ho]

theorem membersByName_of_repeated {names : List Text} {name : Text} (hname : name ∈ names)
    (h : 1 < timesGiven name members) : Json.membersByName names members = none := by
  rw [Json.membersByName, if_neg]
  intro hall
  simp only [Bool.and_eq_true, List.all_eq_true, decide_eq_true_eq] at hall
  exact absurd (hall.2 name hname) (not_le.mpr h)

theorem readPlain?_of_repeated (h : 1 < timesGiven hostnameMember members) :
    readPlain? (.object members) = none := by
  rw [readPlain?, Json.fields?, membersByName_of_repeated List.mem_cons_self h]

theorem readCustom?_of_repeated {name : Text}
    (hname : name ∈ hostnameMember :: Overrides.memberNames)
    (h : 1 < timesGiven name members) : readCustom? held (.object members) = none := by
  rw [readCustom?, membersByName_of_repeated hname h]
  exact ite_self none

theorem readCustom?_of_not_isHeld (h : ¬ IsHeld held j) : readCustom? held j = none := by
  cases j with
  | object members =>
      by_cases hhold : othersHeld held members = true
      · obtain ⟨name, hname, htwice⟩ : ∃ name ∈ Overrides.memberNames,
            1 < timesGiven name members := by
          by_contra hnone
          push Not at hnone
          exact h ⟨hhold, hnone⟩
        exact readCustom?_of_repeated (List.mem_cons_of_mem _ hname) htwice
      · rw [readCustom?, if_neg hhold]
  | _ => rfl

end HostRequest

/-- What readers of records document. Some requests are declined with one text, whatever is to be
read from them. From all others the value in the body is read: as a record of a host, or as an
object of which all but the host is held and then read as overrides. -/
structure BodyReader.ReadsRecords (reader : BodyReader) (declined? : Http.Request → Option Text)
    (held : Json → Bool) : Prop where
  declined : ∀ {r text}, declined? r = some text →
    reader.plain r = .error text ∧ reader.custom r = .error text
  plain : ∀ {r j}, declined? r = none → Json.ofText? r.body = some j →
    (reader.plain r).toOption = HostRequest.readPlain? j
  custom : ∀ {r j}, declined? r = none → Json.ofText? r.body = some j →
    (reader.custom r).toOption = HostRequest.readCustom? held j

section
variable {ε α : Type} {x : Except ε α}

theorem eq_ok_of_toOption {a : α} (h : x.toOption = some a) : x = .ok a := by
  cases x with
  | error e => cases h
  | ok b => rw [Option.some.inj h]

theorem exists_eq_error_of_toOption (h : x.toOption = none) : ∃ e, x = .error e := by
  cases x with
  | error e => exact ⟨e, rfl⟩
  | ok b => cases h

end

theorem readBody_of_refusal {α : Type} {r : Http.Request} {text : Text} (describe : Text → Text)
    (read : Json → Option α) (h : refusal? r = some text) :
    readBody describe read r = .error text := by
  rw [readBody, h]

theorem toOption_readBody {α : Type} {r : Http.Request} {j : Json} (describe : Text → Text)
    (read : Json → Option α) (hrefusal : refusal? r = none) (hbody : Json.ofText? r.body = some j) :
    (readBody describe read r).toOption = read j := by
  rw [readBody, hrefusal, hbody, Option.bind_some]
  dsimp only
  cases read j <;> rfl

theorem BodyReader.json_readsRecords (describe : BodyKind → Text → Text) :
    (BodyReader.json describe).ReadsRecords refusal? (Json.isHoldable memberLevels) where
  declined h := ⟨readBody_of_refusal _ _ h, readBody_of_refusal _ _ h⟩
  plain := toOption_readBody (describe .plain) HostRequest.readPlain?
  custom := toOption_readBody (describe .custom) (HostRequest.readCustom? _)

section
variable {σ : Type} {reader : BodyReader} {declined? : Http.Request → Option Text}
  {held : Json → Bool} {r : Http.Request} {j : Json} (m : HostManager σ) (now : Text)
  (s : ServiceState σ) (change : HostChange)

namespace HostChange

theorem respond_of_refused {text : Text} (h : reader.custom r = .error text) :
    change.custom.respond reader m now r s = (.ofError (.body text), s) := by
  rw [Endpoint.respond, call?_custom, hostCall, readRequest, h]

theorem respond_plain_of_refused {text : Text} (h : reader.plain r = .error text) :
    change.plain.respond reader m now r s = (.ofError (.body text), s) := by
  rw [Endpoint.respond, call?_plain, hostCall, readRequest, h]

/-- The same host without overrides and with empty ones is the same request. -/
theorem respond_custom_eq {hostname : Option Text} {o : Overrides} (ho : o.isEmpty = true)
    (hplain : reader.plain r = .ok ⟨hostname, {}⟩) (hcustom : reader.custom r = .ok ⟨hostname, o⟩) :
    change.custom.respond reader m now r s = change.plain.respond reader m now r s := by
  rw [Endpoint.respond, Endpoint.respond, call?_plain, call?_custom, hostCall, hostCall,
    readRequest, readRequest, hplain, hcustom]
  dsimp only [HostRequest.required]
  cases hostname.bind nonBlank? with
  | none => rfl
  | some hostname =>
      simp only [Except.map, serve_of_isEmpty change m ho]
      cases hserve : m.serve (change.call hostname {}) s with
      | mk result s' =>
          cases result with
          | error error => rfl
          | ok answer => simp only [reply_custom change m hserve]

/-- A body that names its host, is held and overrides nothing has the same reply and the same effect
at both endpoints of a change. One that is not held is refused where overrides are read, and one
that gives its host twice is refused by both. -/
theorem custom_respond (hreader : reader.ReadsRecords declined? held)
    (hbody : Json.ofText? r.body = some j) :
    (∀ members, j = .object members → HostRequest.NamesHost members →
      HostRequest.OverridesNothing members → HostRequest.IsHeld held j →
        change.custom.respond reader m now r s = change.plain.respond reader m now r s) ∧
      (¬ HostRequest.IsHeld held j → ∃ text,
        change.custom.respond reader m now r s = (.ofError (.body text), s)) ∧
      ∀ members, j = .object members →
        1 < HostRequest.timesGiven HostRequest.hostnameMember members → ∃ text text',
          change.custom.respond reader m now r s = (.ofError (.body text), s) ∧
          change.plain.respond reader m now r s = (.ofError (.body text'), s) := by
  cases hdeclined : declined? r with
  | some text =>
      obtain ⟨hplain, hcustom⟩ := hreader.declined hdeclined
      have hrefused := respond_of_refused m now s change hcustom
      have hplainly := respond_plain_of_refused m now s change hplain
      exact ⟨fun _ _ _ _ _ => hrefused.trans hplainly.symm, fun _ => ⟨text, hrefused⟩,
        fun _ _ _ => ⟨text, text, hrefused, hplainly⟩⟩
  | none =>
      have hplain := hreader.plain hdeclined hbody
      have hcustom := hreader.custom hdeclined hbody
      refine ⟨fun members hj hhost hnothing hheld => ?_, fun hheld => ?_,
        fun members hj htwice => ?_⟩
      · subst hj
        obtain ⟨hostname, o, ho, hp, hc⟩ := HostRequest.reads_of_isHeld hhost hnothing hheld
        rw [hp] at hplain
        rw [hc] at hcustom
        exact respond_custom_eq m now s change ho (eq_ok_of_toOption hplain)
          (eq_ok_of_toOption hcustom)
      · rw [HostRequest.readCustom?_of_not_isHeld hheld] at hcustom
        obtain ⟨text, htext⟩ := exists_eq_error_of_toOption hcustom
        exact ⟨text, respond_of_refused m now s change htext⟩
      · subst hj
        rw [HostRequest.readPlain?_of_repeated htwice] at hplain
        rw [HostRequest.readCustom?_of_repeated List.mem_cons_self htwice] at hcustom
        obtain ⟨text, htext⟩ := exists_eq_error_of_toOption hcustom
        obtain ⟨text', htext'⟩ := exists_eq_error_of_toOption hplain
        exact ⟨text, text', respond_of_refused m now s change htext,
          respond_plain_of_refused m now s change htext'⟩

end HostChange
end

section
open HostRequest

/-- A request with a JSON body. -/
def jsonRequest (body : Text) : Http.Request :=
  ⟨"POST".toList, "/api/traefik/add-host".toList,
    [("content-type".toList, "application/json".toList)], body⟩

/-- A service over one document, with a backend and a frontend to route to. -/
def sampleService : ServiceState MemoryStore where
  store := .withDocument "app".toList "http:\n  routers:\n".toList
  defaults := .start
    { store := { applicationId := "app".toList }
      routing := { backendService := "api".toList, frontendService := "web".toList } }

/-- The reader of the server, with one text for all that is wrong with a body. -/
def sampleReader : BodyReader := .json fun _ _ => "Failed to read the request body".toList

/-- The reply to a body at an endpoint, and the service after it. -/
def sampleRespond (e : Endpoint) (body : Text) : Reply × ServiceState MemoryStore :=
  e.respond sampleReader (HostManager.inMemory .firstLabel) [] (jsonRequest body) sampleService

def blankBody : Text :=
  "\x7b\"hostname\":\"shop.example\",\"apiDomain\":\" \",\"servicePort\":null\x7d".toList

/-- The host is given by its position. -/
def positionBody : Text := "[\"shop.example\"]".toList

def blankMembers : List (JsonString × Json) :=
  [(some hostnameMember, .text "shop.example".toList), (some "apiDomain".toList, .text " ".toList),
    (some "servicePort".toList, .null)]

theorem namesHost_blankMembers : NamesHost blankMembers := by
  constructor
  · decide
  · intro v hv
    simp only [blankMembers, List.mem_cons, Prod.mk.injEq, Option.some.injEq, List.not_mem_nil,
      or_false] at hv
    rcases hv with ⟨-, rfl⟩ | ⟨hname, -⟩ | ⟨hname, -⟩
    · exact .inr ⟨_, rfl⟩
    · exact absurd hname (by decide)
    · exact absurd hname (by decide)

theorem overridesNothing_blankMembers : OverridesNothing blankMembers := by
  constructor
  · intro name hname v hv
    simp only [blankMembers, List.mem_cons, Prod.mk.injEq, Option.some.injEq, List.not_mem_nil,
      or_false] at hv
    rcases hv with ⟨rfl, -⟩ | ⟨-, rfl⟩ | ⟨-, rfl⟩
    · exact absurd hname (by decide)
    · exact .inr ⟨_, rfl, by decide⟩
    · exact .inl rfl
  · intro name hname v hv
    simp only [blankMembers, List.mem_cons, Prod.mk.injEq, Option.some.injEq, List.not_mem_nil,
      or_false] at hv
    rcases hv with ⟨rfl, -⟩ | ⟨rfl, -⟩ | ⟨-, rfl⟩
    · exact absurd hname (by decide)
    · exact absurd hname (by decide)
    · rfl

/-- One override is blank and one is null, and both count as none; a host without a name is no
request with overrides. -/
theorem HostChange.custom_respond_sample :
    Json.ofText? blankBody = some (.object blankMembers) ∧ NamesHost blankMembers ∧
      OverridesNothing blankMembers ∧
      IsHeld (Json.isHoldable memberLevels) (.object blankMembers) ∧
      sampleRespond .addHostCustom blankBody = sampleRespond .addHost blankBody ∧
      (sampleRespond .addHostCustom blankBody).1.status = 200 ∧
      Json.ofText? positionBody = some (.array [.text "shop.example".toList]) ∧
      ∃ text, sampleRespond .deleteHostCustom positionBody =
        (.ofError (.body text), sampleService) := by
  have hreader : sampleReader.ReadsRecords refusal? (Json.isHoldable memberLevels) :=
    BodyReader.json_readsRecords _
  have hbody : Json.ofText? (jsonRequest blankBody).body = some (.object blankMembers) := by
    cbv
  have hheld : IsHeld (Json.isHoldable memberLevels) (.object blankMembers) :=
    ⟨by decide, by decide⟩
  have hsame := (HostChange.custom_respond (HostManager.inMemory .firstLabel) [] sampleService
    .add hreader hbody).1 _ rfl namesHost_blankMembers overridesNothing_blankMembers hheld
  have hposition : Json.ofText? (jsonRequest positionBody).body =
      some (.array [.text "shop.example".toList]) := by
    cbv
  have hrefused := (HostChange.custom_respond (HostManager.inMemory .firstLabel) [] sampleService
    .delete hreader hposition).2.1 not_false
  exact ⟨hbody, namesHost_blankMembers, overridesNothing_blankMembers, hheld, hsame,
    by decide +kernel, hposition, hrefused⟩

/-- A number beyond every double stands beside the host. -/
def numberBody : Text := "\x7b\"hostname\":\"shop.example\",\"note\":1e999\x7d".toList

/-- One override is given twice, each time without a value. -/
def repeatedBody : Text :=
  "\x7b\"hostname\":\"shop.example\",\"apiDomain\":null,\"apiDomain\":null\x7d".toList

/-- Bodies that name a host and override nothing are taken by the plain endpoint only. -/
theorem HostChange.custom_refuses_unheld_bodies :
    (Json.ofText? numberBody = some (.object [(some hostnameMember, .text "shop.example".toList),
        (some "note".toList, .number ⟨false, ['1'], none, some (false, "999".toList)⟩)]) ∧
      (sampleRespond .addHost numberBody).1.status = 200 ∧
      (sampleRespond .addHostCustom numberBody).1.status = 400) ∧
      (Json.ofText? repeatedBody = some (.object
          [(some hostnameMember, .text "shop.example".toList),
            (some "apiDomain".toList, .null), (some "apiDomain".toList, .null)]) ∧
        (sampleRespond .addHost repeatedBody).1.status = 200 ∧
        (sampleRespond .addHostCustom repeatedBody).1.status = 400) ∧
      Json.ofText? positionBody = some (.array [.text "shop.example".toList]) ∧
      (sampleRespond .addHost positionBody).1.status = 200 ∧
      (sampleRespond .addHostCustom positionBody).1.status = 400 := by
  refine ⟨⟨?_, ?_, ?_⟩, ⟨?_, ?_, ?_⟩, ?_, ?_, ?_⟩
  · unfold numberBody hostnameMember
    simp only [String.reduceToList]
    rfl
  · decide +kernel
  · decide +kernel
  · cbv
  · decide +kernel
  · decide +kernel
  · cbv
  · decide +kernel
  · decide +kernel

end
end Api
end HostRouting
