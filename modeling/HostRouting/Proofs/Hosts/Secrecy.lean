import HostRouting.Api.Reply
import HostRouting.Hosts.Logged
import HostRouting.Hosts.Reading
import HostRouting.Proofs.Hosts.Ledger
import HostRouting.Proofs.Hosts.Resolution
import Mathlib.Data.List.Forall2

/-!
# What is seen of a key

A key goes through the configuration, the updates and the overrides into the defaults and into the
target of every call. Two runs whose keys differ are compared here, call by call. The defaults show
a key by its mask only, the overrides by whether it is blank, the logs by whether it is there, and a
store in memory looks at the application alone. So the two runs keep to defaults that differ in a
key with the same mask and to stores with the same documents, and nothing that is answered or logged
on the way tells one from the other.
-/
namespace HostRouting
open Text

section
variable {secret secret' : Text}

theorem length_utf8Bytes_take_eq_iff (n : ℕ) :
    (utf8Bytes (secret.take n)).length = (utf8Bytes secret).length ↔ secret.length ≤ n := by
  have hsplit : (utf8Bytes secret).length =
      (utf8Bytes (secret.take n)).length + (utf8Bytes (secret.drop n)).length := by
    rw [← List.length_append, ← utf8Bytes_append, List.take_append_drop]
  rw [hsplit, Nat.left_eq_add, List.length_eq_zero_iff, utf8Bytes_eq_nil_iff, List.drop_eq_nil_iff]

theorem maskSecret_of_long (h : 4 < secret.length) :
    maskSecret secret = secret.take 4 ++ "...".toList := by
  have hcut : ¬ (utf8Bytes (secret.take 4)).length = (utf8Bytes secret).length := by
    rw [length_utf8Bytes_take_eq_iff]
    exact h.not_ge
  have hsome : secret.isEmpty = false := by
    cases secret with
    | nil => cases h
    | cons c rest => rfl
  simp [maskSecret, hsome, hcut]

theorem maskSecret_of_short (hsome : secret ≠ []) (h : secret.length ≤ 4) :
    maskSecret secret = "****".toList := by
  have hwhole := (length_utf8Bytes_take_eq_iff 4).mpr h
  simp [maskSecret, hsome, hwhole]

/-- Secrets that start alike have one mask when all of them go on. -/
theorem maskSecret_eq_of_take (h : 4 < secret.length) (h' : 4 < secret'.length)
    (hstart : secret.take 4 = secret'.take 4) : maskSecret secret = maskSecret secret' := by
  rw [maskSecret_of_long h, maskSecret_of_long h', hstart]

theorem maskSecret_eq_of_short (hsome : secret ≠ []) (hsome' : secret' ≠ [])
    (h : secret.length ≤ 4) (h' : secret'.length ≤ 4) : maskSecret secret = maskSecret secret' := by
  rw [maskSecret_of_short hsome h, maskSecret_of_short hsome' h']

end

/-! ## The same but for the key -/

/-- A configuration with another key that has the same mask. -/
def AppConfig.SameButKey (c c' : AppConfig) : Prop :=
  ∃ key, c' = { c with store := { c.store with apiKey := key } } ∧
    maskSecret c.store.apiKey = maskSecret key

def Defaults.SameButKey (d d' : Defaults) : Prop :=
  ∃ key, d' = { d with store := { d.store with apiKey := key } } ∧
    maskSecret d.store.apiKey = maskSecret key

/-- An update with another key, where it has one, and that has the same mask. -/
def DefaultsUpdate.SameButKey (u u' : DefaultsUpdate) : Prop :=
  ∃ key, u' = { u with apiKey := key } ∧
    Option.Rel (fun k k' => maskSecret k = maskSecret k') u.apiKey key

/-- Overrides with another key, where they have one, and that is blank if theirs is. -/
def Overrides.SameButKey (o o' : Overrides) : Prop :=
  ∃ key, o' = { o with apiKey := key } ∧
    Option.Rel (fun k k' => isBlank k = isBlank k') o.apiKey key

inductive ServiceCall.SameButKey : ServiceCall → ServiceCall → Prop
  | add (hostname : Text) {o o' : Overrides} (h : o.SameButKey o') :
    SameButKey (.add hostname o) (.add hostname o')
  | delete (hostname : Text) {o o' : Overrides} (h : o.SameButKey o') :
    SameButKey (.delete hostname o) (.delete hostname o')
  | config {o o' : Overrides} (h : o.SameButKey o') : SameButKey (.config o) (.config o')
  | services {o o' : Overrides} (h : o.SameButKey o') : SameButKey (.services o) (.services o')
  | showDefaults : SameButKey .showDefaults .showDefaults
  | updateDefaults {u u' : DefaultsUpdate} (h : u.SameButKey u') :
    SameButKey (.updateDefaults u) (.updateDefaults u')
  | resetDefaults : SameButKey .resetDefaults .resetDefaults

section
variable {d d' : Defaults} {o o' : Overrides} {u u' : DefaultsUpdate}

theorem Defaults.SameButKey.ofConfig {c c' : AppConfig} (h : c.SameButKey c') :
    (Defaults.ofConfig c).SameButKey (.ofConfig c') := by
  obtain ⟨key, rfl, hkey⟩ := h
  exact ⟨key, rfl, hkey⟩

theorem maskSecret_getD {given given' : Option Text} {key key' : Text}
    (hgiven : Option.Rel (fun k k' => maskSecret k = maskSecret k') given given')
    (hkey : maskSecret key = maskSecret key') :
    maskSecret (given.getD key) = maskSecret (given'.getD key') := by
  cases hgiven with
  | none => exact hkey
  | some h => exact h

theorem DefaultsUpdate.SameButKey.apply (hu : u.SameButKey u') (hd : d.SameButKey d') :
    (u.apply d).SameButKey (u'.apply d') := by
  obtain ⟨newKey, rfl, hnew⟩ := hu
  obtain ⟨key, rfl, hkey⟩ := hd
  exact ⟨newKey.getD key, rfl, maskSecret_getD hnew hkey⟩

theorem Defaults.SameButKey.view (h : d.SameButKey d') : d.view = d'.view := by
  obtain ⟨key, rfl, hkey⟩ := h
  rw [Defaults.view, Defaults.view, hkey]

theorem Defaults.SameButKey.plan (hd : d.SameButKey d') (ho : o.SameButKey o') :
    o.plan d.routing = o'.plan d'.routing := by
  obtain ⟨_, rfl, -⟩ := hd
  obtain ⟨_, rfl, -⟩ := ho
  rfl

theorem Defaults.SameButKey.target (hd : d.SameButKey d') (ho : o.SameButKey o') :
    ∃ key, o'.resolveTarget d' = { o.resolveTarget d with apiKey := key } := by
  obtain ⟨_, rfl, -⟩ := hd
  obtain ⟨_, rfl, -⟩ := ho
  exact ⟨_, rfl⟩

theorem isNone_nonBlank? (t : Text) : (nonBlank? t).isNone = isBlank t := by
  rw [Bool.eq_iff_iff, Option.isNone_iff_eq_none, nonBlank?_eq_none_iff]

theorem isNone_bind_nonBlank? {given given' : Option Text}
    (h : Option.Rel (fun k k' => isBlank k = isBlank k') given given') :
    (given.bind nonBlank?).isNone = (given'.bind nonBlank?).isNone := by
  cases h with
  | none => rfl
  | some h => rw [Option.bind_some, Option.bind_some, isNone_nonBlank?, isNone_nonBlank?, h]

theorem Overrides.SameButKey.isEmpty (h : o.SameButKey o') : o.isEmpty = o'.isEmpty := by
  obtain ⟨key, rfl, hkey⟩ := h
  simp only [Overrides.isEmpty, List.all_cons, isNone_bind_nonBlank? hkey]

end

/-! ## Stores with the same documents -/

namespace MemoryStore

/-- Two stores with the same documents. -/
structure Alike (s s' : MemoryStore) : Prop where
  documents : ∀ id, s.document? id = s'.document? id

variable {s s' : MemoryStore}

theorem Alike.put (h : s.Alike s') (application t : Text) :
    (s.put application t).Alike (s'.put application t) where
  documents id := by rw [document?_put, document?_put, h.documents]

end MemoryStore

/-- Two results with one answer and with stores that are alike. -/
def AnswerAlike {α : Type} (r r' : α × MemoryStore) : Prop :=
  ∃ answer s s', r = (answer, s) ∧ r' = (answer, s') ∧ s.Alike s'

namespace MemoryStore

variable {s s' : MemoryStore}

/-- A store in memory does not look at the key. -/
theorem read_alike (hs : s.Alike s') (target : StoreTarget) (key : Text) :
    AnswerAlike (read target s) (read { target with apiKey := key } s') := by
  unfold read
  rw [← hs.documents]
  cases s.document? target.applicationId with
  | none => exact ⟨_, _, _, rfl, rfl, hs⟩
  | some t => exact ⟨_, _, _, rfl, rfl, hs⟩

theorem write_alike (hs : s.Alike s') (target : StoreTarget) (key t : Text) :
    AnswerAlike (write target t s) (write { target with apiKey := key } t s') :=
  ⟨_, _, _, rfl, rfl, hs.put _ _⟩

end MemoryStore

namespace HostManager

variable {policy : MatchPolicy} {s s' : MemoryStore} {d d' : Defaults} {o o' : Overrides}

theorem commit_alike (hs : s.Alike s') (ho : o.SameButKey o') (target : StoreTarget) (key : Text)
    (updated : Document) (e : Entity) (verb : Text) (outcome : Outcome) :
    AnswerAlike ((inMemory policy).commit target updated e o verb outcome s)
      ((inMemory policy).commit { target with apiKey := key } updated e o' verb outcome s') := by
  obtain ⟨answer, t, t', hw, hw', ht⟩ := MemoryStore.write_alike hs target key updated.toText
  have hmessage : ∀ acknowledgement,
      changeMessage verb e o acknowledgement = changeMessage verb e o' acknowledgement := by
    intro acknowledgement
    unfold changeMessage
    rw [ho.isEmpty]
  rw [commit, commit, write_inMemory, hw, hw']
  cases answer with
  | error error => exact ⟨_, _, _, rfl, rfl, ht⟩
  | ok acknowledgement =>
      dsimp only
      rw [hmessage]
      exact ⟨_, _, _, rfl, rfl, ht⟩

theorem addEntity_alike (hs : s.Alike s') (ho : o.SameButKey o') (e : Entity)
    (request : ResolvedRequest) (key : Text) :
    AnswerAlike ((inMemory policy).addEntity e request o s)
      ((inMemory policy).addEntity e
        { request with target := { request.target with apiKey := key } } o' s') := by
  obtain ⟨answer, t, t', hr, hr', ht⟩ := MemoryStore.read_alike hs request.target key
  rw [addEntity, addEntity, read_inMemory, hr, hr']
  cases answer with
  | error error => exact ⟨_, _, _, rfl, rfl, ht⟩
  | ok current =>
      dsimp only
      cases (Document.ofText current).addHost (inMemory policy).policy e request.plan with
      | error error => exact ⟨_, _, _, rfl, rfl, ht⟩
      | ok result =>
          cases result with
          | alreadyExists => exact ⟨_, _, _, rfl, rfl, ht⟩
          | inserted updated => exact commit_alike ht ho request.target key updated e _ _

theorem addHost_alike (hs : s.Alike s') (hd : d.SameButKey d') (ho : o.SameButKey o')
    (hostname : Text) : AnswerAlike ((inMemory policy).addHost d hostname o s)
      ((inMemory policy).addHost d' hostname o' s') := by
  obtain ⟨key, htarget⟩ := hd.target ho
  rw [addHost, addHost, Overrides.resolve, Overrides.resolve, ← hd.plan ho, htarget]
  cases Entity.ofText hostname with
  | error error => exact ⟨_, _, _, rfl, rfl, hs⟩
  | ok e =>
      cases o.plan d.routing with
      | error error => exact ⟨_, _, _, rfl, rfl, hs⟩
      | ok plan => exact addEntity_alike hs ho e ⟨o.resolveTarget d, plan⟩ key

theorem deleteHost_alike (hs : s.Alike s') (hd : d.SameButKey d') (ho : o.SameButKey o')
    (hostname : Text) : AnswerAlike ((inMemory policy).deleteHost d hostname o s)
      ((inMemory policy).deleteHost d' hostname o' s') := by
  obtain ⟨key, htarget⟩ := hd.target ho
  obtain ⟨answer, t, t', hr, hr', ht⟩ := MemoryStore.read_alike hs (o.resolveTarget d) key
  rw [deleteHost, deleteHost, htarget, read_inMemory, hr, hr']
  cases Entity.ofText hostname with
  | error error => exact ⟨_, _, _, rfl, rfl, hs⟩
  | ok e =>
      cases answer with
      | error error => exact ⟨_, _, _, rfl, rfl, ht⟩
      | ok current =>
          dsimp only
          split_ifs
          · exact ⟨_, _, _, rfl, rfl, ht⟩
          · exact commit_alike ht ho (o.resolveTarget d) key _ e _ _

theorem currentConfig_alike (hs : s.Alike s') (hd : d.SameButKey d') (ho : o.SameButKey o') :
    AnswerAlike ((inMemory policy).currentConfig d o s)
      ((inMemory policy).currentConfig d' o' s') := by
  obtain ⟨key, htarget⟩ := hd.target ho
  obtain ⟨answer, t, t', hr, hr', ht⟩ := MemoryStore.read_alike hs (o.resolveTarget d) key
  rw [currentConfig, currentConfig, htarget, read_inMemory, hr, hr']
  cases answer with
  | error error => exact ⟨_, _, _, rfl, rfl, ht⟩
  | ok current => exact ⟨_, _, _, rfl, rfl, ht⟩

theorem serviceBindings_alike (hs : s.Alike s') (hd : d.SameButKey d') (ho : o.SameButKey o') :
    AnswerAlike ((inMemory policy).serviceBindings d o s)
      ((inMemory policy).serviceBindings d' o' s') := by
  have hconfig : AnswerAlike ((inMemory policy).currentConfig d o s)
    ((inMemory policy).currentConfig d' o' s') := currentConfig_alike hs hd ho
  obtain ⟨answer, t, t', hc, hc', ht⟩ := hconfig
  rw [serviceBindings, serviceBindings, hc, hc']
  cases answer with
  | error error => exact ⟨_, _, _, rfl, rfl, ht⟩
  | ok current => exact ⟨_, _, _, rfl, rfl, ht⟩

end HostManager

/-! ## What a run shows -/

/-- An answer as a caller sees it: the defaults with the key masked. -/
inductive ShownAnswer where
  | host (operation : HostOperation)
  | config (document : Text)
  | services (bindings : List ServiceBinding)
  | defaults (view : Json)
  | reset

def ServiceAnswer.shown : ServiceAnswer → ShownAnswer
  | .host operation => .host operation
  | .config document => .config document
  | .services bindings => .services bindings
  | .defaults d => .defaults d.view
  | .reset => .reset

/-- The overrides and the target of a call, or its update, as they are logged. -/
def ServiceCall.logs (d : Defaults) : ServiceCall → List Text
  | .add _ o => [o.logged, (o.resolveTarget d).logged]
  | .delete _ o => [o.logged, (o.resolveTarget d).logged]
  | .config o => [o.logged, (o.resolveTarget d).logged]
  | .services o => [o.logged, (o.resolveTarget d).logged]
  | .showDefaults => []
  | .updateDefaults u => [u.logged]
  | .resetDefaults => []

/-- The store section of the defaults as it is logged. -/
def Defaults.loggedStore (d : Defaults) : Text := loggedRecord "StoreConfig" d.store.loggedFields

def DefaultsHandle.logs (h : DefaultsHandle) : List Text :=
  [h.initial.loggedStore, h.current.loggedStore]

namespace ServiceStep

def shown (step : ServiceStep) : Except OperationError ShownAnswer :=
  step.answer.map ServiceAnswer.shown

/-- The reply of an endpoint to the step. -/
def reply (step : ServiceStep) (e : Api.Endpoint) : Api.Reply :=
  match step.answer with
  | .ok answer => e.reply answer
  | .error error => .ofError (.operation error)

/-- All that is logged of the records of a step that may hold a key. -/
def logs (step : ServiceStep) : List Text :=
  step.before.defaults.logs ++ step.call.logs step.before.defaults.current ++
    step.after.defaults.logs

/-- The steps cannot be told apart by what they show. -/
structure LooksLike (step step' : ServiceStep) : Prop where
  shown : step.shown = step'.shown
  reply : ∀ e, step.reply e = step'.reply e
  logs : step.logs = step'.logs

end ServiceStep

structure DefaultsHandle.SameButKey (h h' : DefaultsHandle) : Prop where
  initial : h.initial.SameButKey h'.initial
  current : h.current.SameButKey h'.current

structure ServiceState.SameButKey (s s' : ServiceState MemoryStore) : Prop where
  store : s.store.Alike s'.store
  defaults : s.defaults.SameButKey s'.defaults

theorem Defaults.SameButKey.loggedStore {d d' : Defaults} (h : d.SameButKey d') :
    d.loggedStore = d'.loggedStore := by
  obtain ⟨key, rfl, -⟩ := h
  rfl

theorem DefaultsHandle.SameButKey.logs {h h' : DefaultsHandle} (hh : h.SameButKey h') :
    h.logs = h'.logs := by
  rw [DefaultsHandle.logs, DefaultsHandle.logs, hh.initial.loggedStore, hh.current.loggedStore]

theorem loggedOption_loggedKey {r : Text → Text → Prop} {key key' : Option Text}
    (h : Option.Rel r key key') : loggedOption loggedKey key = loggedOption loggedKey key' := by
  cases h <;> rfl

theorem Overrides.SameButKey.logged {o o' : Overrides} (h : o.SameButKey o') :
    o.logged = o'.logged := by
  obtain ⟨key, rfl, hkey⟩ := h
  simp only [Overrides.logged, loggedOption_loggedKey hkey]

theorem DefaultsUpdate.SameButKey.logged {u u' : DefaultsUpdate} (h : u.SameButKey u') :
    u.logged = u'.logged := by
  obtain ⟨key, rfl, hkey⟩ := h
  simp only [DefaultsUpdate.logged, loggedOption_loggedKey hkey]

theorem Defaults.SameButKey.callLogs {d d' : Defaults} (hd : d.SameButKey d')
    {call call' : ServiceCall} (hcall : call.SameButKey call') : call.logs d = call'.logs d' := by
  have htarget : ∀ {o o' : Overrides}, o.SameButKey o' →
      [o.logged, (o.resolveTarget d).logged] = [o'.logged, (o'.resolveTarget d').logged] := by
    intro o o' ho
    obtain ⟨key, hkey⟩ := hd.target ho
    rw [hkey, ho.logged]
    rfl
  cases hcall with
  | add _ ho => exact htarget ho
  | delete _ ho => exact htarget ho
  | config ho => exact htarget ho
  | services ho => exact htarget ho
  | showDefaults => rfl
  | updateDefaults hu => exact congrArg ([·]) hu.logged
  | resetDefaults => rfl

namespace ServiceStep

/-- Two steps of runs that differ in keys: their answers are the same, or are defaults that differ
in the key. -/
structure SameButKey (step step' : ServiceStep) : Prop where
  before : step.before.SameButKey step'.before
  call : step.call.SameButKey step'.call
  answer : step.answer = step'.answer ∨ ∃ d d', Defaults.SameButKey d d' ∧
    step.answer = .ok (.defaults d) ∧ step'.answer = .ok (.defaults d')
  after : step.after.SameButKey step'.after

theorem SameButKey.looksLike {step step' : ServiceStep} (h : step.SameButKey step') :
    step.LooksLike step' where
  shown := by
    rw [shown, shown]
    rcases h.answer with hsame | ⟨d, d', hd, hanswer, hanswer'⟩
    · rw [hsame]
    · rw [hanswer, hanswer']
      exact congrArg (Except.ok ∘ ShownAnswer.defaults) hd.view
  reply e := by
    rw [reply, reply]
    rcases h.answer with hsame | ⟨d, d', hd, hanswer, hanswer'⟩
    · rw [hsame]
    · rw [hanswer, hanswer']
      dsimp only [Api.Endpoint.reply]
      rw [hd.view]
  logs := by
    rw [logs, logs, h.before.defaults.logs, h.after.defaults.logs,
      h.before.defaults.current.callLogs h.call]

end ServiceStep

namespace HostManager
open ServiceStep

variable {policy : MatchPolicy} {s s' : ServiceState MemoryStore} {call call' : ServiceCall}
  {calls calls' : List ServiceCall}

theorem serve_of_store {α : Type} (hs : s.SameButKey s') (hcall : call.SameButKey call')
    (answer : α → ServiceAnswer) {r r' : Except OperationError α × MemoryStore}
    (hr : AnswerAlike r r') : SameButKey ⟨s, call, (s.after answer r).1, (s.after answer r).2⟩
      ⟨s', call', (s'.after answer r').1, (s'.after answer r').2⟩ := by
  obtain ⟨result, t, t', rfl, rfl, ht⟩ := hr
  exact ⟨hs, hcall, .inl rfl, ht, hs.defaults⟩

/-- One call of the two runs. -/
theorem serve_sameButKey (policy : MatchPolicy) (hs : s.SameButKey s')
    (hcall : call.SameButKey call') :
    SameButKey ⟨s, call, ((inMemory policy).serve call s).1, ((inMemory policy).serve call s).2⟩
      ⟨s', call', ((inMemory policy).serve call' s').1,
        ((inMemory policy).serve call' s').2⟩ := by
  have hd := hs.defaults.current
  cases hcall with
  | add hostname ho =>
      exact serve_of_store hs (.add hostname ho) .host (addHost_alike hs.store hd ho hostname)
  | delete hostname ho =>
      exact serve_of_store hs (.delete hostname ho) .host (deleteHost_alike hs.store hd ho hostname)
  | config ho => exact serve_of_store hs (.config ho) .config (currentConfig_alike hs.store hd ho)
  | services ho =>
      exact serve_of_store hs (.services ho) .services (serviceBindings_alike hs.store hd ho)
  | showDefaults => exact ⟨hs, .showDefaults, .inr ⟨_, _, hd, rfl, rfl⟩, hs⟩
  | updateDefaults hu =>
      have hnew := hu.apply hd
      exact ⟨hs, .updateDefaults hu, .inr ⟨_, _, hnew, rfl, rfl⟩, hs.store, hs.defaults.initial,
        hnew⟩
  | resetDefaults =>
      exact ⟨hs, .resetDefaults, .inl rfl, hs.store, hs.defaults.initial, hs.defaults.initial⟩

theorem trace_sameButKey (hs : s.SameButKey s')
    (hcalls : List.Forall₂ ServiceCall.SameButKey calls calls') :
    List.Forall₂ SameButKey ((inMemory policy).trace s calls)
      ((inMemory policy).trace s' calls') := by
  induction hcalls generalizing s s' with
  | nil => exact .nil
  | cons hcall hrest ih =>
      have hstep := serve_sameButKey policy hs hcall
      exact .cons hstep (ih hstep.after)

/-- Two runs over stores with the same documents, whose configuration, updates and overrides differ
in keys alone, show the same answers and replies and write the same logs, as long as the keys of
configuration and updates are masked alike and those of overrides are blank in both runs or in none.
Secrets of more than four characters are masked alike if they start with the same four, and shorter
ones always are, unless they are empty. -/
theorem trace_hides_keys {c c' : AppConfig} {s s' : MemoryStore} (hc : c.SameButKey c')
    (hs : s.Alike s') (hcalls : List.Forall₂ ServiceCall.SameButKey calls calls') :
    c.loggedStore = c'.loggedStore ∧
      List.Forall₂ LooksLike
        ((inMemory c.routing.policy).trace ⟨s, .start (.ofConfig c)⟩ calls)
        ((inMemory c'.routing.policy).trace ⟨s', .start (.ofConfig c')⟩ calls') ∧
      (∀ k k' : Text, 4 < k.length → 4 < k'.length → k.take 4 = k'.take 4 →
        maskSecret k = maskSecret k') ∧
      ∀ k k' : Text, k ≠ [] → k' ≠ [] → k.length ≤ 4 → k'.length ≤ 4 →
        maskSecret k = maskSecret k' := by
  have hd : (Defaults.ofConfig c).SameButKey (.ofConfig c') := .ofConfig hc
  have hstart : ServiceState.SameButKey ⟨s, .start (.ofConfig c)⟩ ⟨s', .start (.ofConfig c')⟩ :=
    ⟨hs, hd, hd⟩
  have hpolicy : c.routing.policy = c'.routing.policy := by
    obtain ⟨_, rfl, -⟩ := hc
    rfl
  refine ⟨hd.loggedStore, ?_, fun k k' => maskSecret_eq_of_take,
    fun k k' => maskSecret_eq_of_short⟩
  rw [← hpolicy]
  exact (trace_sameButKey hstart hcalls).imp fun _ _ => SameButKey.looksLike

def sampleKeyed (key : Text) : AppConfig :=
  { store := ⟨"http://store".toList, key, "app".toList⟩
    routing := { backendService := "api".toList, frontendService := "web".toList } }

def sampleCalls (key : Text) : List ServiceCall :=
  [.add "a.example".toList { apiKey := some key }, .updateDefaults { apiKey := some key },
    .showDefaults, .resetDefaults, .config {}]

def sampleStore : MemoryStore := .withDocument "app".toList "http:\n  routers:\n".toList

/-- A run in which the configuration, an update and the overrides of a call have one key. -/
def sampleTrace (key : Text) : List ServiceStep :=
  (inMemory (sampleKeyed key).routing.policy).trace
    ⟨sampleStore, .start (.ofConfig (sampleKeyed key))⟩ (sampleCalls key)

/-- Four letters of two bytes each are shown, and hide what follows them. -/
theorem trace_hides_keys_sample :
    maskSecret "äöüß-one".toList = maskSecret "äöüß-two".toList ∧
      maskSecret "äöü".toList = maskSecret "k".toList ∧
      List.Forall₂ LooksLike (sampleTrace "äöüß-one".toList) (sampleTrace "äöüß-two".toList) := by
  have hmask : maskSecret "äöüß-one".toList = maskSecret "äöüß-two".toList := by decide
  have hc : (sampleKeyed "äöüß-one".toList).SameButKey (sampleKeyed "äöüß-two".toList) :=
    ⟨_, rfl, hmask⟩
  have hs : sampleStore.Alike sampleStore := ⟨fun _ => rfl⟩
  have hcalls : List.Forall₂ ServiceCall.SameButKey (sampleCalls "äöüß-one".toList)
      (sampleCalls "äöüß-two".toList) :=
    .cons (.add _ ⟨_, rfl, .some (by decide)⟩) <| .cons (.updateDefaults ⟨_, rfl, .some hmask⟩) <|
      .cons .showDefaults <| .cons .resetDefaults <| .cons (.config ⟨_, rfl, .none⟩) .nil
  obtain ⟨-, hsteps, hlong, hshort⟩ := trace_hides_keys hc hs hcalls
  exact ⟨hlong _ _ (by decide) (by decide) (by decide),
    hshort _ _ (by decide) (by decide) (by decide) (by decide), hsteps⟩

end HostManager
end HostRouting
