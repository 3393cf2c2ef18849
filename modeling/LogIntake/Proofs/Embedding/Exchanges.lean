import LogIntake.Embedding.Exchange
import LogIntake.Proofs.Embedding.Attempts

/-!
# Attempts over HTTP

Over HTTP, an attempt is a request, and the exchange that becomes of it decides whether there is
another one. What counts is the **status**, as soon as there is one: with 429 and the faults of the
server the request is repeated, with any other status it is not, even if the connection breaks
before the end of the body. A request is also repeated where the connection failed before there was
a status, and where the time was over (`Network.Repeats`).

`Client.overHttp` says which requests a client sends over any **network**, and what it reports. Not
every failure of the network is repeated, though: one after the status of a success counts as an
answer that cannot be read (`not_forall_failure_repeated`).
-/

namespace LogIntake

/-! ### Exchanges -/

/-- Whether a response is the fault of a text that was refused. -/
def Response.IsRejection {α : Type} (r : Response α) : Prop :=
  ∃ detail, r = .fails (.embeddingRejected detail)

namespace Exchange

/-- Whether an exchange is worth another one. -/
def mayPass : Exchange → Bool
  | .answered status _ | .cut status _ => status.mayPass
  | .lost _ => true

/-- Whether the connection failed. -/
def isBroken : Exchange → Bool
  | .cut _ _ | .lost _ => true
  | .answered _ _ => false

theorem mayPass_of_isSuccess {status : Net.Status} (h : status.isSuccess) :
    status.mayPass = false := by
  have hcode : 200 ≤ status.code ∧ status.code < 300 := by
    simpa [Net.Status.isSuccess] using h
  have hlow : status.code ≠ 429 ∧ ¬ 500 ≤ status.code := by omega
  simp [Net.Status.mayPass, Net.Status.isServerFault, hlow]

theorem isTransient_refusal (status : Net.Status) (body : String) :
    (refusal status body).isTransient = status.mayPass := by
  rw [refusal]
  cases status.mayPass <;> rfl

theorem isTransient_embedding (body : List UInt8) : (embedding body).isTransient = false := by
  rw [embedding]
  split <;> rfl

/-- A body that cannot be read, or has no embedding in it, is as good as a refusal. -/
theorem isRejection_embedding {body : List UInt8}
    (h : ∀ v vs, (Json.Tree.ofBytes? body).bind Embedding.ofDocument? ≠ some (v :: vs)) :
    (embedding body).IsRejection := by
  rw [embedding]
  split
  · exact ⟨_, rfl⟩
  · exact ⟨_, rfl⟩
  · rename_i v vs hbody
    exact absurd hbody (h v vs)

theorem isRejection_refusal {status : Net.Status} (h : ¬ status.mayPass) (body : String) :
    (Response.fails (refusal status body) : Response Embedding).IsRejection := by
  rw [refusal, if_neg h]
  exact ⟨_, rfl⟩

/-- An exchange is worth another one exactly where its response is a fault that may pass. -/
theorem isTransient_response (x : Exchange) : x.response.isTransient = x.mayPass := by
  cases x with
  | answered status body =>
    rw [response, mayPass]
    split
    · rename_i hsuccess
      rw [isTransient_embedding, mayPass_of_isSuccess hsuccess]
    · exact isTransient_refusal _ _
  | cut status detail =>
    rw [response, mayPass]
    split
    · rename_i hsuccess
      rw [mayPass_of_isSuccess hsuccess]
      rfl
    · exact isTransient_refusal _ _
  | lost detail => rfl

end Exchange

/-! ### Networks -/

/-- What becomes of each request that is sent over a network, how long it takes, and the chance that
decides what is waited after it. -/
structure Network where
  sent : Nat → Exchange
  delay : Nat → Nat
  chance : Nat → Fin 50

namespace Network

/-- The reply to an attempt with a query after `n` others. -/
def reply (net : Network) (q : Query) (n : Nat) : Reply Embedding :=
  ⟨net.delay n, (Exchange.ofQuery q (net.sent n)).response, net.chance n⟩

/-- Whether a request is too late for a client. -/
def IsLate (net : Network) (c : Client) (n : Nat) : Prop :=
  c.timeout < net.delay n

/-- Whether a request is worth another one. -/
def Repeats (net : Network) (c : Client) (n : Nat) : Prop :=
  net.IsLate c n ∨ (net.sent n).mayPass

/-- Whether a request fails on the network or in a way that may pass. -/
def Fails (net : Network) (c : Client) (n : Nat) : Prop :=
  net.Repeats c n ∨ (net.sent n).isBroken

/-- The number of requests that are sent for the attempts of a trace: none where the query cannot
be written down. -/
def requests (q : Query) (tr : Call.Trace Embedding) : Nat :=
  if q.flaw?.isNone then tr.attempts.length else 0

variable {net : Network} {c : Client} {q : Query} {n : Nat}

theorem outcome_of_isLate (h : net.IsLate c n) :
    c.outcome (net.reply q n) = .fails c.lateFault :=
  if_neg (Nat.not_le.mpr h)

theorem outcome_of_not_isLate (hq : q.flaw? = none) (h : ¬ net.IsLate c n) :
    c.outcome (net.reply q n) = (net.sent n).response := by
  have hsent : Exchange.ofQuery q (net.sent n) = net.sent n := by
    rw [Exchange.ofQuery, hq]
  rw [Client.outcome, reply, if_pos (Nat.not_lt.mp h), hsent]

/-- A request is repeated where its outcome is a fault that may pass. -/
theorem isTransient_outcome (hq : q.flaw? = none) :
    (c.outcome (net.reply q n)).isTransient ↔ net.Repeats c n := by
  by_cases hlate : net.IsLate c n
  · rw [outcome_of_isLate hlate]
    exact iff_of_true rfl (.inl hlate)
  · rw [outcome_of_not_isLate hq hlate, Exchange.isTransient_response]
    exact (or_iff_right hlate).symm

/-- A query that cannot be written down fails in a way that may pass, every time. -/
theorem isTransient_of_flaw (hq : q.flaw? ≠ none) :
    (c.outcome (net.reply q n)).isTransient := by
  obtain ⟨flaw, hflaw⟩ := Option.ne_none_iff_exists'.mp hq
  have hsent : Exchange.ofQuery q (net.sent n) = .lost flaw.message := by
    rw [Exchange.ofQuery, hflaw]
  by_cases hlate : net.IsLate c n
  · rw [outcome_of_isLate hlate]
    rfl
  · rw [Client.outcome, reply, if_pos (Nat.not_lt.mp hlate), hsent]
    rfl

end Network

/-! ### What is reported -/

namespace Client

/-- A rejected text. -/
def Rejects (r : Option (Response Embedding)) : Prop :=
  ∃ o, r = some o ∧ o.IsRejection

/-- What a client reports after the `k`-th request has turned out to be the last one. -/
structure Reports (c : Client) (net : Network) (k : Nat) (r : Option (Response Embedding)) :
    Prop where
  /-- Where it was worth another one, the budget is used up. -/
  exhausted : net.Repeats c (k - 1) → k = c.retry.maxRetries.toNat + 1 ∧
    ∃ detail, r = some (.fails (.embeddingExhausted (UInt32.ofNat k) detail))
  /-- The first embedding of a success is the result, if it is as long as it must be. -/
  decoded : ¬ net.IsLate c (k - 1) → ∀ status body v vs,
    net.sent (k - 1) = .answered status body → status.isSuccess →
    (Json.Tree.ofBytes? body).bind Embedding.ofDocument? = some (v :: vs) →
    r = some (c.checkLength v)
  /-- A success that cannot be read is a rejection. -/
  unreadable : ¬ net.IsLate c (k - 1) → ∀ status body,
    net.sent (k - 1) = .answered status body → status.isSuccess →
    (Json.Tree.ofBytes? body).bind Embedding.ofDocument? = none → Rejects r
  /-- So is one without an embedding. -/
  empty : ¬ net.IsLate c (k - 1) → ∀ status body,
    net.sent (k - 1) = .answered status body → status.isSuccess →
    (Json.Tree.ofBytes? body).bind Embedding.ofDocument? = some [] → Rejects r
  /-- Any other status that is not worth another request is a rejection. -/
  refused : ¬ net.IsLate c (k - 1) → ∀ status body,
    net.sent (k - 1) = .answered status body → ¬ status.isSuccess → ¬ status.mayPass → Rejects r
  /-- A connection that breaks after a status that is not worth another request leads to a
  rejection, even after a success. -/
  cut : ¬ net.IsLate c (k - 1) → ∀ status detail,
    net.sent (k - 1) = .cut status detail → ¬ status.mayPass → Rejects r

variable {c : Client} {net : Network} {q : Query} {k : Nat}

/-- The verdict on a rejection is a rejection. -/
theorem rejects_verdict {o : Response Embedding} (h : o.IsRejection) (attempts : UInt32) :
    Rejects (some (c.verdict attempts o)) := by
  obtain ⟨detail, rfl⟩ := h
  exact ⟨.fails (.embeddingRejected detail), rfl, detail, rfl⟩

/-- The verdict on a fault that may pass is that the attempts are used up. -/
theorem verdict_of_isTransient {o : Response Embedding} (h : o.isTransient) (attempts : UInt32) :
    ∃ detail, c.verdict attempts o = .fails (.embeddingExhausted attempts detail) := by
  cases o with
  | gives v => cases h
  | breaks => cases h
  | fails f =>
    have htransient : f.isTransient := h
    refine ⟨f.message, ?_⟩
    rw [verdict, report, if_pos htransient]

/-- What a client reports follows from the exchange of its last request. -/
theorem reports (hq : q.flaw? = none) (h : c.Tries (net.reply q) 0 k) :
    c.Reports net k (some (c.verdict (UInt32.ofNat k) (c.outcome (net.reply q (k - 1))))) where
  exhausted hrepeats := by
    have htransient := (Network.isTransient_outcome hq).mpr hrepeats
    obtain ⟨detail, hverdict⟩ := verdict_of_isTransient htransient (UInt32.ofNat k)
    exact ⟨h.last.resolve_right (not_not_intro htransient), detail, congrArg some hverdict⟩
  decoded hlate status body v vs hsent hsuccess hbody := by
    rw [Network.outcome_of_not_isLate hq hlate, hsent, Exchange.response, if_pos hsuccess,
      Exchange.embedding, hbody]
    rfl
  unreadable hlate status body hsent hsuccess hbody := by
    rw [Network.outcome_of_not_isLate hq hlate, hsent, Exchange.response, if_pos hsuccess]
    exact rejects_verdict (Exchange.isRejection_embedding (by simp [hbody])) _
  empty hlate status body hsent hsuccess hbody := by
    rw [Network.outcome_of_not_isLate hq hlate, hsent, Exchange.response, if_pos hsuccess]
    exact rejects_verdict (Exchange.isRejection_embedding (by simp [hbody])) _
  refused hlate status body hsent hsuccess hpass := by
    rw [Network.outcome_of_not_isLate hq hlate, hsent, Exchange.response, if_neg hsuccess]
    exact rejects_verdict (Exchange.isRejection_refusal hpass _) _
  cut hlate status detail hsent hpass := by
    rw [Network.outcome_of_not_isLate hq hlate, hsent, Exchange.response]
    split
    · exact rejects_verdict ⟨_, rfl⟩ _
    · exact rejects_verdict (Exchange.isRejection_refusal hpass _) _

/-- Which requests a client sends over a network to embed a text that is not blank, and what it
reports. -/
structure SendsOver (c : Client) (net : Network) (requests : Nat)
    (r : Option (Response Embedding)) : Prop where
  /-- There is at least one request. -/
  pos : 0 < requests
  /-- Another request is sent exactly where the budget allows it and all before it were worth
  another one. -/
  another : ∀ n, n < requests ↔
    n ≤ c.retry.maxRetries.toNat ∧ ∀ i, i < n → net.Repeats c i
  reports : c.Reports net requests r

/-- How a client embeds any text over any network: nothing is sent for a blank text, or where no
query can be written down, and otherwise all requests that are worth it. -/
theorem overHttp (c : Client) (hmax : c.retry.maxRetries ≠ 0xFFFFFFFF) (e : Config.Embedder)
    (text : String) (net : Network) (now fuel : Nat)
    (hfuel : 5 * (c.retry.maxRetries.toNat + 1) ≤ fuel) :
    let q := e.query text
    let tr := c.embed text (net.reply q) now fuel
    (Text.isBlankText text → Network.requests q tr = 0 ∧ tr.result = some (.fails blankText)) ∧
    (¬ Text.isBlankText text → q.flaw? ≠ none → Network.requests q tr = 0 ∧ ∃ detail,
      tr.result = some (.fails (.embeddingExhausted (c.retry.maxRetries + 1) detail))) ∧
    (¬ Text.isBlankText text → q.flaw? = none →
      c.SendsOver net (Network.requests q tr) tr.result) := by
  intro q tr
  refine ⟨fun hblank => ?_, fun htext hflaw => ?_, fun htext hq => ?_⟩
  · obtain ⟨g, rfl⟩ : ∃ g, fuel = g + 1 := ⟨fuel - 1, by omega⟩
    have htr : tr = ⟨some (.fails blankText), [], now⟩ := embed_blank c _ now g hblank
    rw [htr]
    exact ⟨ite_self 0, rfl⟩
  · obtain ⟨k, hk⟩ := embed_spec htext hmax (net.reply q) now hfuel
    have hnone : q.flaw?.isNone = false := Option.isNone_eq_false_iff.mpr
      (Option.isSome_iff_ne_none.mpr hflaw)
    have hall : k = c.retry.maxRetries.toNat + 1 :=
      hk.tries.last.resolve_right (not_not_intro (Network.isTransient_of_flaw hflaw))
    have htransient : (c.outcome (net.reply q (k - 1))).isTransient :=
      Network.isTransient_of_flaw hflaw
    obtain ⟨detail, hverdict⟩ : ∃ detail, c.verdict (UInt32.ofNat k)
        (c.outcome (net.reply q (k - 1))) =
          .fails (.embeddingExhausted (UInt32.ofNat k) detail) :=
      verdict_of_isTransient htransient (UInt32.ofNat k)
    refine ⟨by rw [Network.requests, hnone]; rfl, detail, ?_⟩
    have hcount : UInt32.ofNat k = c.retry.maxRetries + 1 := by
      rw [hall, UInt32.ofNat_add, UInt32.ofNat_toNat]
      rfl
    rw [← hcount, ← hverdict]
    exact hk.result
  · obtain ⟨k, hk⟩ := embed_spec htext hmax (net.reply q) now hfuel
    have hrequests : Network.requests q tr = k := by
      rw [Network.requests, hq]
      exact hk.length_attempts
    rw [hrequests, hk.result]
    refine ⟨hk.tries.lt, fun n => ?_, reports hq hk.tries⟩
    simp only [hk.tries.lt_iff, Network.isTransient_outcome hq, Nat.zero_le, forall_const]

/-- A client of vectors with two components, with three repetitions at most. -/
def pair : Client := ⟨2, 1000, .standard⟩

/-- A provider on this machine. -/
def pairEmbedder : Config.Embedder := .standard "http://[::1]:8080/v1" 2

/-- A network on which every connection breaks after the status of a success, at once. -/
def brokenOff : Network where
  sent _ := .cut ⟨200⟩ "error decoding response body"
  delay _ := 0
  chance _ := Fin.last 49

/-- A text that such a client embeds over such a network. -/
theorem overHttp_brokenOff :
    let q := pairEmbedder.query "disk full"
    let tr := pair.embed "disk full" (brokenOff.reply q) 0 20
    pair.retry.maxRetries ≠ 0xFFFFFFFF ∧ ¬ Text.isBlankText "disk full" ∧ q.flaw? = none ∧
      pair.SendsOver brokenOff (Network.requests q tr) tr.result := by
  have hq : (pairEmbedder.query "disk full").flaw? = none := by decide +kernel
  have htext : ¬ Text.isBlankText "disk full" := by decide
  have h := overHttp pair (by decide) pairEmbedder "disk full" brokenOff 0 20 (by decide)
  exact ⟨by decide, htext, hq, h.2.2 htext hq⟩

/-- Not every failure on the network is repeated: a connection that breaks after the status of a
success ends the call, though the budget is not used up. -/
theorem not_forall_failure_repeated :
    ¬ ∀ (c : Client) (e : Config.Embedder) (text : String) (net : Network) (n : Nat),
      c.retry.maxRetries ≠ 0xFFFFFFFF → ¬ Text.isBlankText text → (e.query text).flaw? = none →
      let tr := c.embed text (net.reply (e.query text)) 0 (5 * (c.retry.maxRetries.toNat + 1))
      (n < Network.requests (e.query text) tr ↔
        n ≤ c.retry.maxRetries.toNat ∧ ∀ i, i < n → net.Fails c i) := by
  intro h
  have hq : (pairEmbedder.query "disk full").flaw? = none := by decide +kernel
  have htext : ¬ Text.isBlankText "disk full" := by decide
  have hmax : pair.retry.maxRetries ≠ 0xFFFFFFFF := by decide
  have hsecond := (h pair pairEmbedder "disk full" brokenOff 1 hmax htext hq).mpr
    ⟨by decide, fun i _ => .inr rfl⟩
  -- But the first request is not worth another one.
  obtain ⟨k, hk⟩ := embed_spec htext hmax (brokenOff.reply (pairEmbedder.query "disk full")) 0
    (Nat.le_refl _)
  rw [Network.requests, hq, Option.isNone_none, if_pos rfl, hk.length_attempts] at hsecond
  have hfirst := ((hk.tries.lt_iff).mp hsecond).2 0 (Nat.le_refl 0) Nat.one_pos
  rw [Network.isTransient_outcome hq] at hfirst
  obtain hlate | hpass := hfirst
  · exact Nat.not_lt_zero _ hlate
  · exact absurd hpass (by decide)

end Client

end LogIntake
