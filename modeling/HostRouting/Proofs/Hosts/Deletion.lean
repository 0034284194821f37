import HostRouting.Proofs.Document.Settling
import HostRouting.Proofs.Hosts.Operations

/-!
# Deletion of a host from its stored document

A deletion finds nothing exactly when no line of the stored document opens a block of the host,
and then the store is not touched. Otherwise it writes once, and no line of the new document opens
one: the removal keeps no such line, and the text that is written reads back as the lines that were
kept. In both cases the host is gone. A second deletion finds nothing, and an addition does not
find the host present, since a line with its marker would open a block.
-/
namespace HostRouting
open Text

namespace Document

variable {policy : MatchPolicy} {e : Entity} {d : Document}

theorem Without.contains_marker (h : d.Without policy e) : d.contains e.marker = false := by
  rw [Bool.eq_false_iff, ne_eq, contains_iff]
  intro hc
  obtain ⟨l, hl, hm⟩ := hc
  have hfree := h l hl
  rw [startsBlock_of_marker hm] at hfree
  cases hfree

/-- The text of a document that was read and rid of a host reads back without the host. -/
theorem without_ofText_removeHost (policy : MatchPolicy) (e : Entity) (t : Text) :
    (ofText ((ofText t).removeHost policy e).toText).Without policy e := by
  have hlines : ∀ l ∈ ((ofText t).removeHost policy e).lines, '\n' ∉ l :=
    newline_not_mem_removeHost fun _ hl => newline_not_mem_of_mem_ofText hl
  rw [ofText_toText hlines]
  intro l hl
  exact startsBlock_of_mem_keptLines
    (mem_keptLines_of_mem_removeHost (mem_of_mem_dropEndWhile isBlank hl))

end Document

namespace HostManager
open Document

variable {policy : MatchPolicy} {e : Entity} {application t : Text} {s : MemoryStore}

/-- The host has no block in the document of the application: whoever deletes it there finds
nothing and changes nothing, and no addition there finds it present. -/
structure Gone (policy : MatchPolicy) (e : Entity) (application : Text) (s : MemoryStore) :
    Prop where
  delete : ∀ d o hostname, Entity.ofText hostname = .ok e →
    (o.resolveTarget d).applicationId = application →
      ∃ op, (inMemory policy).deleteHost d hostname o s = (.ok op, s) ∧ op.outcome = .notFound
  add : ∀ d o hostname, Entity.ofText hostname = .ok e →
    (o.resolveTarget d).applicationId = application → ∀ op s',
      (inMemory policy).addHost d hostname o s = (.ok op, s') → op.outcome ≠ .alreadyExists

theorem gone_of_without (ht : s.document? application = some t)
    (hw : (ofText t).Without policy e) : Gone policy e application s where
  delete := by
    intro d o hostname he happ
    have hd := deletes_deleteHost policy he d o s
    rw [happ] at hd
    generalize (inMemory policy).deleteHost d hostname o s = r at hd ⊢
    cases hd with
    | failed cause =>
        rw [ht] at cause
        cases cause
    | absent _ _ answer => exact ⟨_, rfl, answer⟩
    | deleted stored present _ _ =>
        obtain rfl : t = _ := Option.some.inj (ht.symm.trans stored)
        exact absurd hw present
  add := by
    intro d o hostname he happ op s' h
    have ha := adds_addHost policy he d o s
    rw [happ, h] at ha
    cases ha with
    | present stored found _ =>
        obtain rfl : t = op.updatedConfig := Option.some.inj (ht.symm.trans stored)
        rw [hw.contains_marker] at found
        cases found
    | added _ _ _ answer =>
        rw [answer]
        decide

/-- What a deletion of the host answers and leaves when `t` is stored under the application. -/
structure DeletedFrom (policy : MatchPolicy) (e : Entity) (application t : Text)
    (s : MemoryStore) (op : HostOperation) (s' : MemoryStore) : Prop where
  notFound_iff : op.outcome = .notFound ↔ (ofText t).Without policy e
  notFound : op.outcome = .notFound → s' = s ∧ op.updatedConfig = t
  deleted : op.outcome ≠ .notFound → op.outcome = .deleted ∧ s'.writes = s.writes + 1 ∧
    s'.document? application = some op.updatedConfig ∧ (ofText op.updatedConfig).Without policy e
  gone : Gone policy e application s'

/-- A deletion takes exactly what is there. A blank name is refused; for every other one the host
is not found just when the stored document has no block of it, and it is gone afterwards. -/
theorem deleteHost_exact (policy : MatchPolicy) (d : Defaults) (o : Overrides)
    (ht : s.document? (o.resolveTarget d).applicationId = some t) (hostname : Text) :
    (isBlank hostname = true ∧
      (inMemory policy).deleteHost d hostname o s = (.error (.edit .emptyHost), s)) ∨
    ∃ e, Entity.ofText hostname = .ok e ∧ ∃ op s',
      (inMemory policy).deleteHost d hostname o s = (.ok op, s') ∧
        DeletedFrom policy e (o.resolveTarget d).applicationId t s op s' := by
  by_cases hb : trim hostname = []
  · have he : Entity.ofText hostname = .error .emptyHost := dif_pos hb
    exact .inl ⟨(trim_eq_nil_iff hostname).mp hb, by rw [deleteHost, he]⟩
  · obtain ⟨e, he⟩ : ∃ e, Entity.ofText hostname = .ok e := ⟨_, dif_neg hb⟩
    refine .inr ⟨e, he, ?_⟩
    have hd := deletes_deleteHost policy he d o s
    generalize (inMemory policy).deleteHost d hostname o s = r at hd ⊢
    cases hd with
    | failed cause =>
        rw [ht] at cause
        cases cause
    | absent stored without answer =>
        obtain rfl : t = _ := Option.some.inj (ht.symm.trans stored)
        exact ⟨_, _, rfl, by simp [answer, without], fun _ => ⟨rfl, rfl⟩, fun h => absurd answer h,
          gone_of_without ht without⟩
    | @deleted op t' stored present written answer =>
        obtain rfl : t = t' := Option.some.inj (ht.symm.trans stored)
        have hkept : (s.put (o.resolveTarget d).applicationId op.updatedConfig).document?
            (o.resolveTarget d).applicationId = some op.updatedConfig := by
          rw [MemoryStore.document?_put, if_pos rfl]
        have hfree : (ofText op.updatedConfig).Without policy e := by
          rw [written]
          exact without_ofText_removeHost policy e t
        exact ⟨_, _, rfl, by simp [answer, present], fun h => by simp [answer] at h,
          fun _ => ⟨answer, rfl, hkept, hfree⟩, gone_of_without hkept hfree⟩

/-- A document in which one host is routed. -/
def routedText : Text :=
  "http:\n  routers:\n    shop-router:\n      rule: Host(`shop.example`)\n".toList

def appDefaults : Defaults := { store := { applicationId := "app".toList } }

theorem deleteHost_exact_sample : ∃ op s',
    (inMemory .firstLabel).deleteHost appDefaults "shop.example ".toList {}
        (.withDocument "app".toList routedText) = (.ok op, s') ∧
      op.outcome = .deleted ∧ s'.writes = 1 ∧ Gone .firstLabel shopHost "app".toList s' := by
  have happ : (({} : Overrides).resolveTarget appDefaults).applicationId = "app".toList := by decide
  have hname : Entity.ofText "shop.example ".toList = .ok shopHost := rfl
  have hpresent : ¬ (ofText routedText).Without .firstLabel shopHost := by decide
  rcases deleteHost_exact .firstLabel (s := .withDocument "app".toList routedText) appDefaults {}
      rfl "shop.example ".toList with ⟨hblank, -⟩ | ⟨e, he, op, s', hop, h⟩
  · exact absurd hblank (by decide)
  · obtain rfl : shopHost = e := Except.ok.inj (hname.symm.trans he)
    obtain ⟨hout, hwrites, -, -⟩ := h.deleted fun hn => hpresent (h.notFound_iff.mp hn)
    exact ⟨op, s', hop, hout, hwrites, happ ▸ h.gone⟩

end HostManager
end HostRouting
