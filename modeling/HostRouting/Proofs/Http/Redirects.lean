import HostRouting.Http.Client
import HostRouting.Http.Script
import Mathlib.Data.Nat.Notation

/-!
# The requests of an exchange

An exchange with a scripted peer sends its request, and then one request for each redirect that it
follows. The relation below says which requests may come after a request when the script stands at a
given reply: each one is where the client goes on from the reply to the request before it. An
induction on the redirects that are left shows that an exchange sends nothing else. What is
documented of clients then tells the methods, and a reply that is no redirect ends the exchange.
-/
namespace HostRouting.Http

/-- The requests that come after a request which the reply number `n` of the script answers. -/
inductive Follows (client : Client) (script : ℕ → PeerReply) :
    ℕ → OutgoingRequest → List OutgoingRequest → Prop
  | last {n : ℕ} {r : OutgoingRequest} : Follows client script n r []
  | redirected {n : ℕ} {r next : OutgoingRequest} {response : Response}
      {rest : List OutgoingRequest} (reply : script n = .answered response)
      (goes : client.redirect? r response = some next)
      (later : Follows client script (n + 1) next rest) : Follows client script n r (next :: rest)

/-- One exchange takes a transcript to another one: it adds its request and those that follow. -/
structure Exchange (client : Client) (script : ℕ → PeerReply) (r : OutgoingRequest)
    (before after : Transcript) (followed : List OutgoingRequest) : Prop where
  sent : after = before ++ r :: followed
  follows : Follows client script before.length r followed
  bounded : followed.length ≤ client.redirectLimit

theorem PeerReply.eq_answered_of_response {reply : PeerReply} {response : Response}
    (h : reply.response = .ok response) : reply = .answered response := by
  cases reply with
  | dropped => cases h
  | answered r =>
      rw [PeerReply.response] at h
      split at h
      · rw [Except.ok.inj h]
      · cases h

variable {client : Client} {script : ℕ → PeerReply} {n : ℕ} {r : OutgoingRequest}
  {followed : List OutgoingRequest}

theorem exchange_of_unsendable (h : client.canSend r = false) {σ : Type} (peer : Peer σ)
    (hops : ℕ) (s : σ) : client.exchange peer hops r s = (.error .request, s) := by
  rw [Client.exchange, if_neg (Bool.eq_false_iff.mp h)]

/-- A request that can be sent is sent. It is the last one of its exchange, or its reply redirects
to the next one while there are redirects left. -/
theorem exchange_cases (client : Client) (script : ℕ → PeerReply) (hops : ℕ)
    (h : client.canSend r = true) (sent : Transcript) :
    (∃ outcome, client.exchange (scriptedPeer script) hops r sent = (outcome, sent ++ [r])) ∨
    ∃ response next rest, script sent.length = .answered response ∧
      client.redirect? r response = some next ∧ hops = rest + 1 ∧
      client.exchange (scriptedPeer script) hops r sent =
        client.exchange (scriptedPeer script) rest next (sent ++ [r]) := by
  rw [Client.exchange, if_pos h]
  dsimp only [scriptedPeer]
  cases hreply : (script sent.length).response with
  | error e => exact .inl ⟨_, rfl⟩
  | ok response =>
      dsimp only
      cases hgoes : client.redirect? r response with
      | none => exact .inl ⟨_, rfl⟩
      | some next =>
          cases hops with
          | zero => exact .inl ⟨_, rfl⟩
          | succ rest =>
              exact .inr ⟨response, next, rest, PeerReply.eq_answered_of_response hreply, hgoes,
                rfl, rfl⟩

theorem exists_follows_exchange (client : Client) (script : ℕ → PeerReply) (hops : ℕ)
    (h : client.canSend r = true) (sent : Transcript) : ∃ followed,
      (client.exchange (scriptedPeer script) hops r sent).2 = sent ++ r :: followed ∧
      Follows client script sent.length r followed ∧ followed.length ≤ hops := by
  induction hops generalizing r sent with
  | zero =>
      rcases exchange_cases client script 0 h sent with ⟨outcome, hlast⟩ | ⟨_, _, _, -, -, hnone, -⟩
      · exact ⟨[], by rw [hlast], .last, Nat.zero_le _⟩
      · cases hnone
  | succ hops ih =>
      rcases exchange_cases client script (hops + 1) h sent with
        ⟨outcome, hlast⟩ | ⟨response, next, rest, hreply, hgoes, hrest, hlater⟩
      · exact ⟨[], by rw [hlast], .last, Nat.zero_le _⟩
      · obtain rfl : hops = rest := Nat.succ.inj hrest
        rw [hlater]
        by_cases hnext : client.canSend next = true
        · obtain ⟨later, hsent, hfollows, hbound⟩ := ih hnext (sent ++ [r])
          rw [List.length_append, List.length_singleton] at hfollows
          refine ⟨next :: later, ?_, .redirected hreply hgoes hfollows, Nat.succ_le_succ hbound⟩
          rw [hsent, List.append_assoc, List.singleton_append]
        · rw [exchange_of_unsendable (Bool.eq_false_iff.mpr hnext)]
          exact ⟨[], rfl, .last, Nat.zero_le _⟩

theorem exists_exchange_send (client : Client) (script : ℕ → PeerReply)
    (h : client.canSend r = true) (sent : Transcript) :
    ∃ followed,
      Exchange client script r sent (client.send (scriptedPeer script) r sent).2 followed := by
  obtain ⟨followed, hsent, hfollows, hbound⟩ :=
    exists_follows_exchange client script client.redirectLimit h sent
  exact ⟨followed, hsent, hfollows, hbound⟩

theorem send_of_unsendable (h : client.canSend r = false) {σ : Type} (peer : Peer σ) (s : σ) :
    client.send peer r s = (.error .request, s) :=
  exchange_of_unsendable h peer client.redirectLimit s

section
variable (hclient : client.FollowsRedirects)
include hclient

theorem Client.FollowsRedirects.redirect?_eq_none {response : Response}
    (h : response.isRedirect = false) : client.redirect? r response = none := by
  rw [Option.eq_none_iff_forall_ne_some]
  intro next hnext
  rw [hclient.isRedirect hnext] at h
  cases h

theorem Follows.eq_nil (h : Follows client script n r followed)
    (hlast : (script n).isRedirect = false) : followed = [] := by
  cases h with
  | last => rfl
  | redirected reply goes later =>
      rw [reply, PeerReply.isRedirect, hclient.isRedirect goes] at hlast
      cases hlast

/-- Whoever gets something goes on to get. -/
theorem Follows.method_eq_get (h : Follows client script n r followed)
    (hget : r.method = "GET".toList) : ∀ q ∈ followed, q.method = "GET".toList := by
  induction h with
  | last => exact fun q hq => absurd hq List.not_mem_nil
  | redirected reply goes later ih =>
      have hnext := (hclient.method goes (.inl hget)).elim (fun h => h.2.1.trans hget) id
      exact List.forall_mem_cons.mpr ⟨hnext, ih hnext⟩

/-- Whoever posts something goes on to get, or posts the same once more. -/
theorem Follows.method_of_post (h : Follows client script n r followed)
    (hpost : r.method = "POST".toList) : ∀ q ∈ followed,
      q.method = "GET".toList ∨ q.method = "POST".toList ∧ q.body = r.body := by
  induction h with
  | last => exact fun q hq => absurd hq List.not_mem_nil
  | redirected reply goes later ih =>
      rcases hclient.method goes (.inr hpost) with ⟨-, hmethod, hbody⟩ | hget
      · have hnext := hmethod.trans hpost
        rw [hbody] at ih
        exact List.forall_mem_cons.mpr ⟨.inr ⟨hnext, hbody⟩, ih hnext⟩
      · exact List.forall_mem_cons.mpr
          ⟨.inl hget, fun q hq => .inl (later.method_eq_get hclient hget q hq)⟩

/-- A post is made again only where the reply to it says so. -/
theorem Follows.method_of_not_repeats (h : Follows client script n r followed)
    (hpost : r.method = "POST".toList) (hreply : (script n).repeats = false) :
    ∀ q ∈ followed, q.method = "GET".toList := by
  cases h with
  | last => exact fun q hq => absurd hq List.not_mem_nil
  | redirected reply goes later =>
      rcases hclient.method goes (.inr hpost) with ⟨hrepeats, -⟩ | hget
      · rw [reply, PeerReply.repeats, hrepeats] at hreply
        cases hreply
      · exact List.forall_mem_cons.mpr ⟨hget, later.method_eq_get hclient hget⟩

/-- A reply that is no redirect ends the exchange. -/
theorem send_of_not_isRedirect (h : client.canSend r = true) {sent : Transcript}
    (hreply : (script sent.length).isRedirect = false) :
    client.send (scriptedPeer script) r sent = ((script sent.length).response, sent ++ [r]) := by
  rw [Client.send, Client.exchange, if_pos h]
  dsimp only [scriptedPeer]
  cases hresponse : (script sent.length).response with
  | error e => rfl
  | ok response =>
      rw [PeerReply.eq_answered_of_response hresponse] at hreply
      dsimp only
      rw [hclient.redirect?_eq_none hreply]

end

namespace OutgoingRequest

variable {next : OutgoingRequest} {response : Response}

theorem redirect?_eq_some (h : r.redirect? response = some next) :
    response.isRedirect = true ∧ next.method = (r.goingOn response.status).method ∧
      next.body = (r.goingOn response.status).body := by
  unfold redirect? at h
  split at h
  · next hredirect =>
    obtain ⟨url, -, rfl⟩ := Option.map_eq_some_iff.mp h
    exact ⟨hredirect, method_movedTo _ _, body_movedTo _ _⟩
  · cases h

/-- From a redirect a post is made again, or it becomes a request to get. Any other request stays as
it is, or becomes one to get. -/
theorem goingOn_cases (r : OutgoingRequest) (h : response.isRedirect = true) :
    r.goingOn response.status = r ∧ (response.repeats = true ∨ r.method ≠ "POST".toList) ∨
      r.goingOn response.status = r.toGet := by
  have hstatus : isRedirectStatus response.status = true := (Bool.and_eq_true_iff.mp h).1
  simp only [isRedirectStatus, List.contains_iff_mem, List.mem_cons, List.not_mem_nil,
    or_false] at hstatus
  unfold goingOn
  split
  · exact .inr rfl
  · next hstays =>
    refine .inl ⟨rfl, ?_⟩
    by_cases hpost : r.method = "POST".toList
    · simp only [hpost, decide_true, Bool.and_true, Bool.or_eq_true, decide_eq_true_eq, not_or]
        at hstays
      have hrepeats : response.status = 307 ∨ response.status = 308 := by omega
      exact .inl (by simp [Response.repeats, h, hrepeats])
    · exact .inr hpost

end OutgoingRequest

theorem Client.standard_followsRedirects : Client.standard.FollowsRedirects where
  isRedirect h := (OutgoingRequest.redirect?_eq_some h).1
  method := by
    intro r response next h hmethod
    obtain ⟨hredirect, hnext, hbody⟩ := OutgoingRequest.redirect?_eq_some h
    rw [hnext, hbody]
    rcases r.goingOn_cases hredirect with ⟨hsame, hrepeats | hpost⟩ | hget
    · rw [hsame]
      exact .inl ⟨hrepeats, rfl, rfl⟩
    · rw [hsame]
      exact .inr (hmethod.resolve_right hpost)
    · rw [hget]
      exact .inr rfl

end HostRouting.Http
