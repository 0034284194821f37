import HostRouting.Proofs.Url.Endpoints
import HostRouting.Proofs.Url.Forms
import HostRouting.Store.Basic

/-!
# The endpoints of a target

The URLs of a target are its domain with the path of an endpoint written behind it, read as a
whole. So the domain decides for both endpoints together whether there is a URL, and with which
error there is none. It also decides whether the URLs address the endpoints: they do exactly if the
domain leaves the path open. What the query says of the application stands behind whatever the
domain has put there.
-/
namespace HostRouting.StoreTarget
open Url

/-- The URLs lead to the two endpoints, and the query of the first one is the application alone. -/
structure Addresses (s : StoreTarget) (read update : Url) : Prop where
  read_path : readPath <:+ read.path
  read_query : read.query.map formPairs = some [("applicationId".toList, s.applicationId)]
  update_path : updatePath <:+ update.path

def readName : Text := "application.readTraefikConfig".toList
def updateName : Text := "application.updateTraefikConfig".toList

theorem readPath_eq : readPath = apiPath readName := by decide
theorem updatePath_eq : updatePath = apiPath updateName := by decide

theorem isPlainName_readName : IsPlainName readName where
  plain := List.all_eq_true.mp (by decide)
  named := ⟨'a', by decide, by decide⟩

theorem isPlainName_updateName : IsPlainName updateName where
  plain := List.all_eq_true.mp (by decide)
  named := ⟨'a', by decide, by decide⟩

theorem not_suffix_readPath_updatePath : ¬ readPath <:+ updatePath := by decide
theorem not_suffix_updatePath_readPath : ¬ updatePath <:+ readPath := by decide

section
variable {s : StoreTarget} {path : Text} {url read update : Url} {error : UrlError}

/-- No path ends with both endpoints. -/
theorem not_suffix_both (hread : readPath <:+ path) : ¬ updatePath <:+ path := by
  intro hupdate
  rcases List.suffix_or_suffix_of_suffix hread hupdate with h | h
  · exact not_suffix_readPath_updatePath h
  · exact not_suffix_updatePath_readPath h

theorem endpoint_eq (hid : Text.isBlank s.applicationId = false)
    (hdomain : s.baseUrl.isEmpty = false) (path : Text) :
    s.endpoint path = (Url.ofText (s.baseUrl ++ path)).mapError (.badUrl s.baseUrl) := by
  rw [endpoint, hid, hdomain]
  simp only [Bool.false_eq_true, if_false]
  cases Url.ofText (s.baseUrl ++ path) <;> rfl

theorem formPairs_addPair (url : Url) (name value : Text) :
    (url.addPair name value).query.map formPairs =
      some ((url.query.map formPairs).getD [] ++ [(name, value)]) :=
  congrArg some (formPairs_appendPair url.query name value)

/-- What is read of the domain with either endpoint behind it. -/
theorem read_endpoints {isOpen : Bool}
    (h : Leads (fun name => Url.ofText (s.baseUrl ++ apiPath name)) isOpen) :
    (∃ error, Url.ofText (s.baseUrl ++ readPath) = .error error ∧
        Url.ofText (s.baseUrl ++ updatePath) = .error error) ∨
      ∃ read update, Url.ofText (s.baseUrl ++ readPath) = .ok read ∧
        Url.ofText (s.baseUrl ++ updatePath) = .ok update ∧
        (s.Addresses (read.addPair "applicationId".toList s.applicationId) update ↔
          isOpen = true) := by
  rw [readPath_eq, updatePath_eq]
  cases h with
  | refused error h =>
      exact .inl ⟨error, h readName isPlainName_readName, h updateName isPlainName_updateName⟩
  | kept h =>
      obtain ⟨read, front, hread, hpath, hquery⟩ := h readName isPlainName_readName
      obtain ⟨update, front', hupdate, hpath', -⟩ := h updateName isPlainName_updateName
      refine .inr ⟨read, update, hread, hupdate, iff_of_true ⟨⟨front, ?_⟩, ?_, ⟨front', ?_⟩⟩ rfl⟩
      · rw [readPath_eq]
        exact hpath.symm
      · rw [formPairs_addPair, hquery]
        rfl
      · rw [updatePath_eq]
        exact hpath'.symm
  | hidden path h =>
      obtain ⟨read, hread, hpath⟩ := h readName isPlainName_readName
      obtain ⟨update, hupdate, hpath'⟩ := h updateName isPlainName_updateName
      refine .inr ⟨read, update, hread, hupdate,
        iff_of_false (fun haddresses => ?_) Bool.false_ne_true⟩
      have hend : readPath <:+ path := hpath ▸ haddresses.read_path
      have hend' : updatePath <:+ path := hpath' ▸ haddresses.update_path
      exact not_suffix_both hend hend'
  | taken h =>
      obtain ⟨read, hread, hpath⟩ := h readName isPlainName_readName
      obtain ⟨update, hupdate, -⟩ := h updateName isPlainName_updateName
      refine .inr ⟨read, update, hread, hupdate,
        iff_of_false (fun haddresses => ?_) Bool.false_ne_true⟩
      have hshort : ¬ readPath <:+ '/' :: readName := by decide
      have hend : readPath <:+ '/' :: readName := hpath ▸ haddresses.read_path
      exact hshort hend

/-- A target has both URLs or fails for both with the same error. The application is the last pair
of the query, and the URLs address the endpoints exactly if the domain leaves the path open. -/
theorem urls_address_endpoints_iff (s : StoreTarget) :
    (∃ error, s.readUrl = .error error ∧ s.updateUrl = .error error) ∨
      ∃ read update, s.readUrl = .ok read ∧ s.updateUrl = .ok update ∧
        (∃ pairs, read.query.map formPairs =
          some (pairs ++ [("applicationId".toList, s.applicationId)])) ∧
        (s.Addresses read update ↔ leavesPathOpen s.baseUrl = true) := by
  unfold readUrl updateUrl
  cases hid : Text.isBlank s.applicationId with
  | true => exact .inl ⟨.emptyApplicationId, by simp [endpoint, hid, Except.map]⟩
  | false =>
      cases hdomain : s.baseUrl.isEmpty with
      | true => exact .inl ⟨.emptyDomain, by simp [endpoint, hid, hdomain, Except.map]⟩
      | false =>
          rw [endpoint_eq hid hdomain, endpoint_eq hid hdomain]
          rcases read_endpoints (leads_ofText s.baseUrl) with
            ⟨error, hread, hupdate⟩ | ⟨read, update, hread, hupdate, haddresses⟩
          · rw [hread, hupdate]
            exact .inl ⟨.badUrl s.baseUrl error, rfl, rfl⟩
          · rw [hread, hupdate]
            exact .inr ⟨_, update, rfl, rfl, ⟨_, formPairs_addPair read _ _⟩, haddresses⟩

end

/-- A domain with a query of its own. -/
def queryInDomain : StoreTarget := ⟨"http://[::1]?q=1".toList, "key".toList, "app".toList⟩

/-- Behind a query the endpoint is a part of the query. -/
theorem query_takes_endpoint :
    ¬ ∀ (s : StoreTarget) (read update : Url), s.readUrl = .ok read → s.updateUrl = .ok update →
      s.Addresses read update := by
  intro haddresses
  have hread : queryInDomain.readUrl.toOption.map Url.path = some "/".toList := by decide +kernel
  have hupdate : queryInDomain.updateUrl.toOption.isSome = true := by decide +kernel
  cases hr : queryInDomain.readUrl with
  | error error =>
      rw [hr] at hread
      cases hread
  | ok read =>
      cases hu : queryInDomain.updateUrl with
      | error error =>
          rw [hu] at hupdate
          cases hupdate
      | ok update =>
          rw [hr] at hread
          have hpath : read.path = "/".toList := Option.some.inj hread
          have hend := (haddresses queryInDomain read update hr hu).read_path
          rw [hpath] at hend
          exact absurd hend (by decide)

end HostRouting.StoreTarget
