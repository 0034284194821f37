import HostRouting.Proofs.Http.Redirects
import HostRouting.Store.Remote
import Mathlib.Data.ENat.Lattice
import Mathlib.Logic.Function.Iterate

/-!
# How often a call is made

A run makes one call after the other until an outcome settles it or the bound of its policy is
reached, whichever comes first. The loop counts in a word, and the count never passes the bound, so
it is the number of calls and no count is lost. With that a read of a remote store makes one
exchange for each call, and a write makes at most one. Without redirects an exchange is one request,
and then a read sends the same request as often as the replies ask for it.
-/
namespace HostRouting
open Http

/-- The number of the first settled call, counted from one, and infinite where none is settled. -/
noncomputable def firstSettled (settled : ℕ → Prop) : ℕ∞ :=
  ⨅ i, ⨅ _ : settled i, ((i + 1 : ℕ) : ℕ∞)

section
variable {settled : ℕ → Prop} {n m : ℕ}

theorem le_firstSettled_iff : (m : ℕ∞) ≤ firstSettled settled ↔ ∀ i, settled i → m ≤ i + 1 := by
  simp only [firstSettled, le_iInf_iff, Nat.cast_le]

theorem firstSettled_le (h : settled n) : firstSettled settled ≤ (n + 1 : ℕ) := iInf₂_le n h

/-- Calls that go on up to the first settled one or up to a bound are as many as the smaller of the
two. -/
theorem eq_min_firstSettled (hbefore : ∀ i < n, ¬ settled i) (hbound : n < m)
    (hend : ¬ settled n → n + 1 = m) : ((n + 1 : ℕ) : ℕ∞) = min (firstSettled settled) m := by
  have hn : ((n + 1 : ℕ) : ℕ∞) ≤ firstSettled settled :=
    le_firstSettled_iff.mpr fun i hi => Nat.succ_le_succ (not_lt.mp fun h => hbefore i h hi)
  have hm : ((n + 1 : ℕ) : ℕ∞) ≤ m := Nat.cast_le.mpr hbound
  refine le_antisymm (le_min hn hm) ?_
  by_cases hsettled : settled n
  · exact (min_le_left _ _).trans (firstSettled_le hsettled)
  · exact (min_le_right _ _).trans (Nat.cast_le.mpr (hend hsettled).ge)

end

/-- The bound on the calls of a run: one where retries are off, and never none. -/
def RetryConfig.attemptLimit (c : RetryConfig) : ℕ :=
  if c.enabled then max 1 c.maxAttempts.toNat else 1

variable {ε α σ : Type}

/-- A failure that may pass. -/
def Passing (isRetryable : ε → Bool) : Except ε α → Prop
  | .ok _ => False
  | .error e => isRetryable e = true

/-- The state after some calls, one after the other. -/
def stateAfter (call : σ → Except ε α × σ) (s : σ) (n : ℕ) : σ := (fun s => (call s).2)^[n] s

theorem stateAfter_succ (call : σ → Except ε α × σ) (s : σ) (n : ℕ) :
    stateAfter call s (n + 1) = (call (stateAfter call s n)).2 :=
  Function.iterate_succ_apply' _ n s

namespace RetryPolicy

theorem toNat_maxAttempts_ofConfig (c : RetryConfig) :
    (ofConfig c).maxAttempts.toNat = c.attemptLimit := by
  unfold ofConfig RetryConfig.attemptLimit
  by_cases henabled : c.enabled = true
  · by_cases hpositive : 1 ≤ c.maxAttempts
    · have hle : 1 ≤ c.maxAttempts.toNat := UInt32.le_iff_toNat_le.mp hpositive
      simp [henabled, hpositive, hle]
    · have hzero : c.maxAttempts.toNat ≤ 1 :=
        (UInt32.lt_iff_toNat_lt.mp (UInt32.not_le.mp hpositive)).le
      simp [henabled, hpositive, hzero]
  · simp [henabled]

/-- A loop that has made some calls makes `n` more whose failures may pass, and then the last. -/
structure EndsAfter (p : RetryPolicy) (isRetryable : ε → Bool) (call : σ → Except ε α × σ)
    (made : ℕ) (s : σ) (n : ℕ) (last : RetryEnd ε α σ) : Prop where
  bounded : made + n < p.maxAttempts.toNat
  counted : last.counted.toNat = made + n + 1
  passing : ∀ i < n, Passing isRetryable (call (stateAfter call s i)).1
  final : call (stateAfter call s n) = (last.outcome, last.state)
  ended : Passing isRetryable last.outcome → made + n + 1 = p.maxAttempts.toNat

variable {p : RetryPolicy} {isRetryable : ε → Bool} {call : σ → Except ε α × σ}

theorem EndsAfter.cons {made n : ℕ} {s next : σ} {e : ε} {last : RetryEnd ε α σ}
    (hcall : call s = (.error e, next)) (he : isRetryable e = true)
    (h : EndsAfter p isRetryable call (made + 1) next n last) :
    EndsAfter p isRetryable call made s (n + 1) last where
  bounded := by have := h.bounded; omega
  counted := by have := h.counted; omega
  passing i hi := by
    cases i with
    | zero =>
        rw [stateAfter, Function.iterate_zero_apply, hcall]
        exact he
    | succ i =>
        rw [stateAfter, Function.iterate_succ_apply, hcall]
        exact h.passing i (Nat.lt_of_succ_lt_succ hi)
  final := by
    rw [stateAfter, Function.iterate_succ_apply, hcall]
    exact h.final
  ended hlast := by have := h.ended hlast; omega

theorem exists_endsAfter (p : RetryPolicy) (isRetryable : ε → Bool) (call : σ → Except ε α × σ)
    (made : { n : UInt32 // n < p.maxAttempts }) (s : σ) :
    ∃ n, EndsAfter p isRetryable call made.1.toNat s n (p.loop isRetryable call made s) := by
  fun_induction loop p isRetryable call made s with
  | case1 made s value next hcall =>
      exact ⟨0, UInt32.lt_iff_toNat_lt.mp made.2, toNat_add_one_of_lt made.2,
        fun i hi => absurd hi i.not_lt_zero, hcall, False.elim⟩
  | case2 made s e next hcall hnext ih =>
      obtain ⟨n, hn⟩ := ih
      rw [toNat_add_one_of_lt made.2] at hn
      exact ⟨n + 1, hn.cons hcall hnext.2⟩
  | case3 made s e next hcall hnext =>
      have hmade := toNat_add_one_of_lt made.2
      have hlt : made.1.toNat < p.maxAttempts.toNat := UInt32.lt_iff_toNat_lt.mp made.2
      refine ⟨0, hlt, hmade, fun i hi => absurd hi i.not_lt_zero, hcall, fun hpass => ?_⟩
      have hreached : ¬ made.1 + 1 < p.maxAttempts := fun h => hnext ⟨h, hpass⟩
      rw [UInt32.lt_iff_toNat_lt, hmade] at hreached
      omega

/-- A run makes calls up to the first that is settled or up to its bound, counts them all, and
returns what the last one returned. -/
theorem exists_last_call (c : RetryConfig) (isRetryable : ε → Bool) (call : σ → Except ε α × σ)
    (s : σ) : ∃ last : ℕ,
      ((last + 1 : ℕ) : ℕ∞) = min (firstSettled fun i =>
        ¬ Passing isRetryable (call (stateAfter call s i)).1) c.attemptLimit ∧
      (ofConfig c).run isRetryable call s = call (stateAfter call s last) ∧
      ((ofConfig c).loop isRetryable call ⟨0, zero_lt_maxAttempts _⟩ s).counted.toNat =
        last + 1 := by
  obtain ⟨last, h⟩ := exists_endsAfter (ofConfig c) isRetryable call ⟨0, zero_lt_maxAttempts _⟩ s
  refine ⟨last, ?_, h.final.symm, by simpa using h.counted⟩
  rw [← toNat_maxAttempts_ofConfig]
  refine eq_min_firstSettled (fun i hi => not_not_intro (h.passing i hi)) ?_ fun hpass => ?_
  · simpa using h.bounded
  · have hlast : Passing isRetryable (call (stateAfter call s last)).1 := not_not.mp hpass
    rw [h.final] at hlast
    simpa using h.ended hlast

/-- Calls that all end alike and change nothing end as one of them does. -/
theorem run_of_constant {outcome : Except ε α} (h : ∀ s, call s = (outcome, s)) (s : σ) :
    p.run isRetryable call s = (outcome, s) := by
  obtain ⟨n, hn⟩ := exists_endsAfter p isRetryable call ⟨0, zero_lt_maxAttempts _⟩ s
  have hstate : stateAfter call s n = s :=
    Function.iterate_fixed (congrArg Prod.snd (h s)) n
  have hfinal := hn.final
  rw [hstate, h] at hfinal
  exact hfinal.symm

end RetryPolicy

/-- The call whose outcomes are written on a tape; the state is the number of calls made. -/
def tape (script : ℕ → Except ε α) (made : ℕ) : Except ε α × ℕ := (script made, made + 1)

theorem stateAfter_tape (script : ℕ → Except ε α) (n : ℕ) : stateAfter (tape script) 0 n = n := by
  induction n with
  | zero => rfl
  | succ n ih =>
      rw [stateAfter_succ, ih]
      rfl

/-- A rehearsed run makes the calls of its script up to the first that is settled. -/
theorem RetryPolicy.rehearse_calls (c : RetryConfig) (script : ℕ → CallOutcome) :
    ∃ last : ℕ,
      ((last + 1 : ℕ) : ℕ∞) = min (firstSettled (script · ≠ .retryable)) c.attemptLimit ∧
      (ofConfig c).rehearse script = ((scriptedCall script last).1, last + 1) := by
  have htape : scriptedCall script = tape fun i => (scriptedCall script i).1 := by
    funext made
    change scriptedCall script made = ((scriptedCall script made).1, made + 1)
    unfold scriptedCall
    cases script made <;> rfl
  have hpassing : ∀ i, Passing CallFailure.retryable (scriptedCall script i).1 ↔
      script i = .retryable := by
    intro i
    unfold scriptedCall
    cases script i <;> simp [Passing]
  obtain ⟨last, hcalls, hrun, -⟩ := exists_last_call c CallFailure.retryable
    (tape fun i => (scriptedCall script i).1) 0
  simp only [stateAfter_tape, tape, hpassing] at hcalls
  refine ⟨last, hcalls, ?_⟩
  rw [rehearse, htape, hrun, stateAfter_tape]
  rfl

/-- A reply after which a call may be made again: none arrived, or a complete one with a server
error. -/
def Http.PeerReply.MayPass : PeerReply → Prop
  | .dropped => True
  | .answered r => isFinalStatus r.status = false ∨ 500 ≤ r.status ∧ r.complete = true

namespace RemoteStore

variable {target : StoreTarget} {url : Url} {document : Text} {sent : Transcript} {client : Client}
  {script : ℕ → PeerReply} {retry : RetryPolicy}

/-- What a read makes of a reply that is no redirect. -/
def readOutcome (reply : PeerReply) : Except StoreError Text :=
  (accepted .fetch reply.response).map decodePayload

theorem passing_status_iff (status : ℕ) (body : Text) :
    Passing StoreError.isRetryable ((if status = 200 then .ok body
      else .error (.status .fetch status body) : Except StoreError Text).map decodePayload) ↔
      500 ≤ status := by
  by_cases haccepted : status = 200
  · rw [if_pos haccepted]
    exact iff_of_false id (by omega)
  · rw [if_neg haccepted]
    exact decide_eq_true_iff

theorem passing_response_iff (r : Response) :
    Passing StoreError.isRetryable ((accepted .fetch (.ok r)).map decodePayload) ↔
      500 ≤ r.status ∧ r.complete = true := by
  have haccepted : ∀ bytes, r.bytes = .ok bytes → accepted .fetch (.ok r) =
      if r.status = 200 then .ok (bodyText r.contentType bytes)
      else .error (.status .fetch r.status (bodyText r.contentType bytes)) := by
    intro bytes h
    rw [accepted, Response.text, h]
    rfl
  by_cases hbodiless : isBodiless r.status = true
  · have hlow : r.status < 500 := by
      simp only [isBodiless, Bool.or_eq_true, decide_eq_true_eq] at hbodiless
      omega
    rw [haccepted [] (if_pos hbodiless), passing_status_iff]
    exact iff_of_false hlow.not_ge fun h => hlow.not_ge h.1
  · cases hcomplete : r.complete with
    | true =>
        have hbytes : r.bytes = .ok r.body := by simp [Response.bytes, hbodiless, hcomplete]
        rw [haccepted r.body hbytes, passing_status_iff]
        exact (and_iff_left rfl).symm
    | false =>
        have hbytes : r.bytes = .error .body := by simp [Response.bytes, hbodiless, hcomplete]
        rw [accepted, Response.text, hbytes]
        exact iff_of_false Bool.false_ne_true fun h => Bool.false_ne_true h.2

/-- A read is repeated exactly after the replies that may pass. -/
theorem passing_readOutcome_iff (reply : PeerReply) :
    Passing StoreError.isRetryable (readOutcome reply) ↔ reply.MayPass := by
  cases reply with
  | dropped => exact iff_of_true rfl trivial
  | answered r =>
      by_cases hfinal : isFinalStatus r.status = true
      · rw [readOutcome, PeerReply.response, if_pos hfinal, passing_response_iff,
          PeerReply.MayPass, hfinal]
        simp
      · rw [readOutcome, PeerReply.response, if_neg hfinal, PeerReply.MayPass]
        exact iff_of_true rfl (.inl (Bool.not_eq_true _ ▸ hfinal))

theorem read_of_invalid (remote : RemoteStore σ) {e : TargetError} (h : target.readUrl = .error e)
    (s : σ) : remote.read target s = (.error (.target e), s) := by
  refine RetryPolicy.run_of_constant (fun s => ?_) s
  rw [readOnce, h]

theorem readOnce_eq (remote : RemoteStore σ) (h : target.readUrl = .ok url) (s : σ) :
    remote.readOnce target s =
      ((accepted .fetch (remote.client.send remote.peer (readRequest target url) s).1).map
        decodePayload, (remote.client.send remote.peer (readRequest target url) s).2) := by
  rw [readOnce, h]

theorem read_of_unsendable (remote : RemoteStore σ) (h : target.readUrl = .ok url)
    (hsend : remote.client.canSend (readRequest target url) = false) (s : σ) :
    remote.read target s = (.error (.exchange .request), s) := by
  refine RetryPolicy.run_of_constant (fun s => ?_) s
  rw [readOnce_eq remote h, send_of_unsendable hsend]
  rfl

/-- Each call of a read is one exchange, in which only requests to get are sent. -/
theorem exchange_readOnce (hclient : client.FollowsRedirects) (h : target.readUrl = .ok url)
    (hsend : client.canSend (readRequest target url) = true) (before : Transcript) : ∃ followed,
      Exchange client script (readRequest target url) before
        ((RemoteStore.mk client (scriptedPeer script) retry).readOnce target before).2 followed ∧
      ∀ q ∈ followed, q.method = "GET".toList := by
  obtain ⟨followed, hexchange⟩ := exists_exchange_send client script hsend before
  rw [readOnce_eq _ h]
  exact ⟨followed, hexchange, hexchange.follows.method_eq_get hclient rfl⟩

section
variable (hclient : client.FollowsRedirects) (hlast : ∀ i, (script i).isRedirect = false)
include hclient hlast

theorem readOnce_scripted (h : target.readUrl = .ok url)
    (hsend : client.canSend (readRequest target url) = true) (sent : Transcript) :
    (RemoteStore.mk client (scriptedPeer script) retry).readOnce target sent =
      (readOutcome (script sent.length), sent ++ [readRequest target url]) := by
  rw [readOnce_eq _ h, send_of_not_isRedirect hclient hsend (hlast sent.length)]
  rfl

theorem stateAfter_readOnce (h : target.readUrl = .ok url)
    (hsend : client.canSend (readRequest target url) = true) (sent : Transcript) (n : ℕ) :
    stateAfter ((RemoteStore.mk client (scriptedPeer script) retry).readOnce target) sent n =
      sent ++ List.replicate n (readRequest target url) := by
  induction n with
  | zero => exact (List.append_nil sent).symm
  | succ n ih =>
      rw [stateAfter_succ, ih, readOnce_scripted hclient hlast h hsend, List.append_assoc,
        List.replicate_succ']

/-- Without redirects a read of a target sends its request until a reply settles it. -/
theorem read_scripted (c : RetryConfig) (h : target.readUrl = .ok url)
    (hsend : client.canSend (readRequest target url) = true) (sent : Transcript) : ∃ last : ℕ,
      ((last + 1 : ℕ) : ℕ∞) = min (firstSettled fun i => ¬ (script (sent.length + i)).MayPass)
        c.attemptLimit ∧
      (RemoteStore.mk client (scriptedPeer script) (.ofConfig c)).read target sent =
        (readOutcome (script (sent.length + last)),
          sent ++ List.replicate (last + 1) (readRequest target url)) := by
  obtain ⟨last, hcalls, hrun, -⟩ := RetryPolicy.exists_last_call c StoreError.isRetryable
    ((RemoteStore.mk client (scriptedPeer script) (.ofConfig c)).readOnce target) sent
  simp only [stateAfter_readOnce hclient hlast h hsend, readOnce_scripted hclient hlast h hsend,
    List.length_append, List.length_replicate, passing_readOutcome_iff] at hcalls hrun
  refine ⟨last, hcalls, ?_⟩
  rw [read, hrun, List.append_assoc, List.replicate_succ']

end

/-- What a write to a URL sends: one exchange that begins with its request. Only a reply that asks
for it makes it post again, and then the same; every other request only gets something. -/
structure Writes (client : Client) (script : ℕ → PeerReply) (request : OutgoingRequest)
    (before after : Transcript) (followed : List OutgoingRequest) : Prop where
  exchange : Exchange client script request before after followed
  method : ∀ q ∈ followed,
    q.method = "GET".toList ∨ q.method = "POST".toList ∧ q.body = request.body
  once : (script before.length).repeats = false → ∀ q ∈ followed, q.method = "GET".toList
  alone : (script before.length).isRedirect = false → followed = []

theorem transcript_write (hclient : client.FollowsRedirects) (script : ℕ → PeerReply)
    (retry : RetryPolicy) (target : StoreTarget) (document : Text) (sent : Transcript) :
    let after := ((RemoteStore.mk client (scriptedPeer script) retry).write target document sent).2
    after = sent ∨ ∃ url followed, target.updateUrl = .ok url ∧
      Writes client script (updateRequest target url document) sent after followed := by
  rw [write]
  cases hurl : target.updateUrl with
  | error e => exact .inl rfl
  | ok url =>
      by_cases hsend : client.canSend (updateRequest target url document) = true
      · obtain ⟨followed, hexchange⟩ := exists_exchange_send client script hsend sent
        have hfollows := hexchange.follows
        exact .inr ⟨url, followed, rfl, hexchange, hfollows.method_of_post hclient rfl,
          hfollows.method_of_not_repeats hclient rfl, hfollows.eq_nil hclient⟩
      · have hnothing := send_of_unsendable (Bool.eq_false_iff.mpr hsend) (scriptedPeer script) sent
        exact .inl (congrArg Prod.snd hnothing)

end RemoteStore

/-- Under every configuration a run makes the calls of a script up to the first whose outcome is no
failure that may pass, or up to the bound, and returns the outcome of the last one; the count of the
loop is the number of calls. A read of a store, asked through any client that follows redirects,
makes an exchange for each of these calls, and each begins with the same request to get; where no
reply is a redirect it sends that request as often as calls are made. Nothing is sent for a target
without a URL or where the request cannot be sent. A write makes at most one exchange. -/
theorem RetryConfig.calls_are_bounded (c : RetryConfig) (isRetryable : ε → Bool)
    (outcomes : ℕ → Except ε α) {client : Client} (hclient : client.FollowsRedirects)
    (script : ℕ → PeerReply) (target : StoreTarget) (document : Text) (sent : Transcript) :
    (∃ last : ℕ,
      ((last + 1 : ℕ) : ℕ∞) = min (firstSettled fun i => ¬ Passing isRetryable (outcomes i))
        c.attemptLimit ∧
      (RetryPolicy.ofConfig c).run isRetryable (tape outcomes) 0 = (outcomes last, last + 1) ∧
      ((RetryPolicy.ofConfig c).loop isRetryable (tape outcomes)
        ⟨0, RetryPolicy.zero_lt_maxAttempts _⟩ 0).counted.toNat = last + 1) ∧
    let remote : RemoteStore Transcript := ⟨client, scriptedPeer script, .ofConfig c⟩
    let before := stateAfter (remote.readOnce target) sent
    (∀ e, target.readUrl = .error e → remote.read target sent = (.error (.target e), sent)) ∧
    (∀ url, target.readUrl = .ok url →
      client.canSend (RemoteStore.readRequest target url) = false →
      remote.read target sent = (.error (.exchange .request), sent)) ∧
    (∀ url, target.readUrl = .ok url →
      client.canSend (RemoteStore.readRequest target url) = true →
      (∃ last : ℕ,
        ((last + 1 : ℕ) : ℕ∞) = min (firstSettled fun i =>
          ¬ Passing StoreError.isRetryable (remote.readOnce target (before i)).1) c.attemptLimit ∧
        remote.read target sent = remote.readOnce target (before last)) ∧
      (∀ i, ∃ followed, Exchange client script (RemoteStore.readRequest target url) (before i)
          (before (i + 1)) followed ∧ ∀ q ∈ followed, q.method = "GET".toList) ∧
      ((∀ i, (script i).isRedirect = false) → ∃ last : ℕ,
        ((last + 1 : ℕ) : ℕ∞) = min (firstSettled fun i => ¬ (script (sent.length + i)).MayPass)
          c.attemptLimit ∧
        remote.read target sent = (RemoteStore.readOutcome (script (sent.length + last)),
          sent ++ List.replicate (last + 1) (RemoteStore.readRequest target url)))) ∧
    ((remote.write target document sent).2 = sent ∨
      ∃ url followed, target.updateUrl = .ok url ∧
        RemoteStore.Writes client script (RemoteStore.updateRequest target url document) sent
          (remote.write target document sent).2 followed) := by
  obtain ⟨last, hcalls, hrun, hcounted⟩ :=
    RetryPolicy.exists_last_call c isRetryable (tape outcomes) 0
  simp only [stateAfter_tape] at hcalls hrun
  refine ⟨⟨last, hcalls, hrun, hcounted⟩, ?_⟩
  intro remote before
  refine ⟨fun e he => remote.read_of_invalid he sent,
    fun url hurl hsend => remote.read_of_unsendable hurl hsend sent, fun url hurl hsend => ?_,
    RemoteStore.transcript_write hclient script _ target document sent⟩
  refine ⟨?_, fun i => ?_, fun hlast => RemoteStore.read_scripted hclient hlast c hurl hsend sent⟩
  · obtain ⟨last, hlast, hread, -⟩ :=
      RetryPolicy.exists_last_call c StoreError.isRetryable (remote.readOnce target) sent
    exact ⟨last, hlast, hread⟩
  · have hsucc : before (i + 1) = (remote.readOnce target (before i)).2 :=
      stateAfter_succ (remote.readOnce target) sent i
    rw [hsucc]
    exact RemoteStore.exchange_readOnce hclient hurl hsend (before i)

/-- A store at an address of its own. -/
def sampleTarget : StoreTarget := ⟨"http://[::1]".toList, "key".toList, "app".toList⟩

/-- The same store with a key that no header field can hold. -/
def brokenKey : StoreTarget := { sampleTarget with apiKey := "bad\nkey".toList }

theorem exists_readUrl_sampleTarget : ∃ url, sampleTarget.readUrl = .ok url ∧
    Client.standard.canSend (RemoteStore.readRequest sampleTarget url) = true := by
  have hread : (sampleTarget.readUrl.toOption.any fun url =>
      Client.standard.canSend (RemoteStore.readRequest sampleTarget url)) = true := by
    decide +kernel
  cases hurl : sampleTarget.readUrl with
  | error e =>
      rw [hurl] at hread
      cases hread
  | ok url =>
      rw [hurl] at hread
      exact ⟨url, rfl, hread⟩

theorem exists_readUrl_brokenKey : ∃ url, brokenKey.readUrl = .ok url ∧
    Client.standard.canSend (RemoteStore.readRequest brokenKey url) = false := by
  obtain ⟨url, hurl, -⟩ := exists_readUrl_sampleTarget
  refine ⟨url, hurl, ?_⟩
  have hkey : isFieldValue brokenKey.apiKey = false := by decide
  simp [Client.standard, OutgoingRequest.isSendable, RemoteStore.readRequest, RemoteStore.fields,
    hkey]

/-- With a peer that drops every connection, three attempts are three requests, but no request is
sent without a URL or with a key that cannot be sent. -/
theorem RetryConfig.calls_are_bounded_sample :
    let remote : RemoteStore Transcript :=
      ⟨.standard, scriptedPeer fun _ => .dropped, .ofConfig {}⟩
    remote.read {} [] = (.error (.target .emptyApplicationId), []) ∧
      (∃ url, brokenKey.readUrl = .ok url ∧
        remote.read brokenKey [] = (.error (.exchange .request), [])) ∧
      ∃ url, sampleTarget.readUrl = .ok url ∧ remote.read sampleTarget [] =
        (.error (.exchange .transport),
          List.replicate 3 (RemoteStore.readRequest sampleTarget url)) := by
  have hbounded := calls_are_bounded {} (fun failed : Bool => failed) (fun _ => .ok ())
    Client.standard_followsRedirects fun _ => .dropped
  obtain ⟨-, hinvalid, -⟩ := hbounded {} [] []
  obtain ⟨-, -, hunsendable, -⟩ := hbounded brokenKey [] []
  obtain ⟨-, -, -, hsendable, -⟩ := hbounded sampleTarget [] []
  refine ⟨hinvalid .emptyApplicationId (by decide), ?_, ?_⟩
  · obtain ⟨url, hurl, hsend⟩ := exists_readUrl_brokenKey
    exact ⟨url, hurl, hunsendable url hurl hsend⟩
  · obtain ⟨url, hurl, hsend⟩ := exists_readUrl_sampleTarget
    obtain ⟨last, hcalls, hread⟩ := (hsendable url hurl hsend).2.2 fun _ => rfl
    have hnever : firstSettled (fun _ => ¬ PeerReply.dropped.MayPass) = ⊤ := by
      simp [firstSettled, PeerReply.MayPass]
    rw [hnever, min_eq_right le_top] at hcalls
    have hthree : last + 1 = 3 := Nat.cast_inj.mp hcalls
    rw [hthree] at hread
    exact ⟨url, hurl, hread⟩

/-- The calls of a read are more than its requests where the request cannot be sent. -/
theorem unsendable_read_sends_no_request :
    ¬ ∀ (c : RetryConfig) (script : ℕ → PeerReply) (target : StoreTarget) (url : Url),
      target.readUrl = .ok url →
      let remote : RemoteStore Transcript := ⟨.standard, scriptedPeer script, .ofConfig c⟩
      ((remote.read target []).2.length : ℕ∞) = min (firstSettled fun i =>
        ¬ Passing StoreError.isRetryable
          (remote.readOnce target (stateAfter (remote.readOnce target) [] i)).1)
        c.attemptLimit := by
  intro h
  obtain ⟨url, hurl, hsend⟩ := exists_readUrl_brokenKey
  have hcalls := h {} (fun _ => .dropped) brokenKey url hurl
  have hread := RemoteStore.read_of_unsendable
    ⟨.standard, scriptedPeer fun _ => .dropped, .ofConfig {}⟩ hurl hsend []
  dsimp only at hcalls
  rw [hread] at hcalls
  have hpositive : (1 : ℕ∞) ≤ ((0 : ℕ) : ℕ∞) := by
    refine hcalls.symm ▸ le_min ?_ ?_
    · exact le_firstSettled_iff.mpr fun i _ => Nat.le_add_left 1 i
    · exact Nat.cast_le.mpr (by decide)
  exact absurd (Nat.cast_le.mp hpositive) (by decide)

/-- The peer asks once for the same request at the same place, and then takes it. -/
def redirectingScript : ℕ → PeerReply
  | 0 => .answered { status := 307, location := some StoreTarget.updatePath }
  | _ => .answered { status := 200 }

/-- One write posts its document twice where the reply to the first post redirects it to the same
place. -/
theorem redirected_write_posts_again :
    ¬ ∀ (c : RetryConfig) (script : ℕ → PeerReply) (target : StoreTarget) (document : Text),
      let remote : RemoteStore Transcript := ⟨.standard, scriptedPeer script, .ofConfig c⟩
      (((remote.write target document []).2.map (·.method)).count "POST".toList) ≤ 1 := by
  intro h
  have honce := h {} redirectingScript sampleTarget "http:\n".toList
  have htwice : (((RemoteStore.mk Client.standard (scriptedPeer redirectingScript)
      (.ofConfig {})).write sampleTarget "http:\n".toList []).2.map (·.method)).count
        "POST".toList = 2 := by
    decide +kernel
  exact absurd (htwice.symm.trans_le honce) (by decide)

end HostRouting
