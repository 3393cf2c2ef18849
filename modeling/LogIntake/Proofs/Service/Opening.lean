import LogIntake.Proofs.Service.Starting
import LogIntake.Proofs.Store.Connecting

/-!
# How a start goes

A start goes through its parts in order, and each of them begins only if those before it went well:
the settings are loaded, the recorder of the metrics is installed, the store is asked for its health
until it is well, it is made sure of the collection, a client for the provider is made, and the
provider's health is checked. `Opens` lists how far a start can come, what
it results in, and everything that has been asked of others until then; `opens` says that the list
is complete. A start whose result is not known was not given enough steps, or a question to the
store broke.

The health of the provider is checked once, and what comes of it makes no difference
(`startWith_eq_of_probe`).
-/

namespace LogIntake

/-- An exchange gives or fails. -/
theorem Exchange.response_ne_breaks (e : Exchange) : e.response ≠ .breaks := by
  cases e with
  | answered status body =>
    rw [response]
    split
    · rw [embedding]
      split <;> exact nofun
    · exact nofun
  | cut status detail =>
    rw [response]
    split <;> exact nofun
  | lost detail => exact nofun

theorem Exchange.health_ne_breaks (e : Exchange) : e.health ≠ .breaks := by
  have hresponse := e.response_ne_breaks
  rw [health]
  cases h : e.response with
  | gives v => exact nofun
  | fails f => exact nofun
  | breaks => exact absurd h hresponse

namespace Service

variable {processors : Nat} {vars : Config.Variables} {c : Config.Service} {s : Surroundings}
  {fuel : Nat}

/-- How the wait for the store goes. -/
def connecting (c : Config.Service) (s : Surroundings) (fuel : Nat) : Call.Trace Unit :=
  Store.Connection.await c.store c.startupTimeout (fun n => s.check (n + 1)) 0 fuel

/-- How it goes to make sure of the collection. -/
def ensuring (c : Config.Service) (s : Surroundings) :
    Dialogue.Record Store.Request (Except Fault Unit) (List Store.Request) :=
  Store.Handle.talk s.answer (⟨c.store, false⟩ : Store.Handle).ensure []

/-- Some questions for the store's health. -/
def checks (n : Nat) : List Outgoing :=
  List.replicate n (.store .health)

/-- How a start with given settings goes: how far it comes, what it results in, and what is asked of
others on the way. -/
inductive Opens (c : Config.Service) (s : Surroundings) (fuel : Nat) : Start → Prop where
  /-- There is no recorder for the metrics: nothing is asked. -/
  | noRecorder {detail : String} (h : s.recorder = .error detail) :
    Opens c s fuel (.failed (.recorder detail) [])
  /-- There is no handle for the store: nothing is asked. -/
  | noHandle {f : Fault} (hrecorder : s.recorder = .ok ())
    (h : Store.Handle.ofSettings c.store = .error f) :
    Opens c s fuel (.failed (.connection f) [])
  /-- The store is not well in time: nothing else is asked. -/
  | notConnected {f : Fault} {n : Nat} (hrecorder : s.recorder = .ok ()) (hchecks : 0 < n)
    (h : (connecting c s fuel).result = some (.fails f)) :
    Opens c s fuel (.failed (.connection f) (checks n))
  /-- It cannot be made sure of the collection: nothing else is asked. -/
  | notEnsured {f : Fault} {n : Nat} (hrecorder : s.recorder = .ok ()) (hchecks : 0 < n)
    (hconnected : (connecting c s fuel).result = some (.gives ()))
    (h : (ensuring c s).result = .error f) :
    Opens c s fuel
      (.failed (.collection f) (checks n ++ (ensuring c s).requests.map .store))
  /-- There is no client for the provider: nothing else is asked. -/
  | noProvider {detail : String} {n : Nat} (hrecorder : s.recorder = .ok ()) (hchecks : 0 < n)
    (hconnected : (connecting c s fuel).result = some (.gives ()))
    (hensured : (ensuring c s).result = .ok ()) (h : s.provider = .error detail) :
    Opens c s fuel
      (.failed (.provider (.misconfigured ("embedding http client: " ++ detail)))
        (checks n ++ (ensuring c s).requests.map .store))
  /-- The provider is asked for one embedding, and the pipeline and the listener are started. -/
  | probes {n : Nat} (hrecorder : s.recorder = .ok ()) (hchecks : 0 < n)
    (hconnected : (connecting c s fuel).result = some (.gives ()))
    (hensured : (ensuring c s).result = .ok ()) (hprovider : s.provider = .ok ()) :
    Opens c s fuel ⟨launch c s ⟨c.store, false⟩,
      checks n ++ (ensuring c s).requests.map .store ++ [.embed Config.Embedder.healthText]⟩
  /-- It is not known whether the store will be well. -/
  | waits {n : Nat} (hrecorder : s.recorder = .ok ()) (hchecks : 0 < n)
    (h : fuel ≤ 4 * c.startupTimeout + 2 ∨ ∃ n, (s.check n).response = .breaks) :
    Opens c s fuel ⟨none, checks n⟩

/-- What the check of a provider's health comes to is known, and does not break. -/
theorem exists_result_check (k : Client) {reply : Reply Unit} (h : reply.response ≠ .breaks)
    (now : Nat) : ∃ r, (k.check reply now).result = some r ∧ r ≠ .breaks := by
  rw [Client.check]
  split
  · exact ⟨_, rfl, h⟩
  · refine ⟨_, rfl, fun heq => ?_⟩
    cases heq

/-- Without the collection nothing else is asked. -/
theorem prepare_of_error {handle : Store.Handle} {f : Fault}
    (h : (Store.Handle.talk s.answer handle.ensure []).result = .error f) (asked : List Outgoing) :
    prepare c s handle asked = .failed (.collection f)
      (asked ++ (Store.Handle.talk s.answer handle.ensure []).requests.map .store) := by
  rw [Store.Handle.talk] at h ⊢
  simp only [prepare, h]

/-- Once the collection is there, the start goes on with the provider. -/
theorem prepare_of_ok {handle : Store.Handle}
    (h : (Store.Handle.talk s.answer handle.ensure []).result = .ok ()) (asked : List Outgoing) :
    prepare c s handle asked = introduce c s handle
      (asked ++ (Store.Handle.talk s.answer handle.ensure []).requests.map .store) := by
  rw [Store.Handle.talk] at h ⊢
  simp only [prepare, h]

theorem provider_cases (s : Surroundings) :
    (∃ detail, s.provider = .error detail) ∨ s.provider = .ok () := by
  cases s.provider with
  | error detail => exact .inl ⟨detail, rfl⟩
  | ok u => exact .inr rfl

/-- The provider is asked once, and the start goes on whatever comes of that. -/
theorem introduce_of_ok (hprobe : s.probe.response ≠ .breaks) (h : s.provider = .ok ())
    (handle : Store.Handle) (asked : List Outgoing) :
    introduce c s handle asked =
      ⟨launch c s handle, asked ++ [.embed Config.Embedder.healthText]⟩ := by
  obtain ⟨r, hresult, hne⟩ := exists_result_check (clientOf c) hprobe 0
  simp only [introduce, h, attempts_check, hresult]
  cases r with
  | gives _ => rfl
  | fails f => rfl
  | breaks => exact absurd rfl hne

/-- **Every start goes in one of these ways**, whatever the check of the provider's health comes
to. -/
theorem opens {p : Reply Unit} (hp : p.response ≠ .breaks) :
    Opens c s fuel (start c { s with probe := p } fuel) := by
  have hchecks : 0 < (connecting c s fuel).attempts.length + 1 := Nat.succ_pos _
  rw [start]
  split
  · rename_i detail hrecorder
    exact .noRecorder hrecorder
  rename_i hrecorder
  rw [connect]
  split
  · rename_i f hhandle
    exact .noHandle hrecorder hhandle
  · rename_i handle hhandle
    obtain rfl := eq_of_ofSettings hhandle
    dsimp only
    rw [← connecting]
    split
    · rename_i hconnected
      cases hensured : (ensuring c s).result with
      | error f =>
        rw [prepare_of_error (s := { s with probe := p }) hensured]
        exact .notEnsured hrecorder hchecks hconnected hensured
      | ok u =>
        rw [prepare_of_ok (s := { s with probe := p }) hensured]
        obtain ⟨detail, hprovider⟩ | hprovider := provider_cases s
        · simp only [introduce, hprovider]
          exact .noProvider hrecorder hchecks hconnected hensured hprovider
        · rw [introduce_of_ok (s := { s with probe := p }) hp hprovider]
          exact .probes hrecorder hchecks hconnected hensured hprovider
    · rename_i f hlate
      exact .notConnected hrecorder hchecks hlate
    · rename_i hbroken
      refine .waits hrecorder hchecks (.inr ?_)
      by_contra hnone
      exact Store.Connection.result_await_ne_breaks c.store c.startupTimeout
        (fun n hn => hnone ⟨n + 1, hn⟩) 0 fuel hbroken
    · rename_i hunknown
      refine .waits hrecorder hchecks (.inl ?_)
      by_contra hfuel
      have hknown := Store.Connection.isSome_await c.store c.startupTimeout
        (fun n => s.check (n + 1)) 0 (Nat.not_le.mp hfuel)
      rw [← connecting, hunknown] at hknown
      cases hknown

/-- **The health of the provider makes no difference** to a start, whatever the check comes to. -/
theorem startWith_eq_of_probe {p p' : Reply Unit} (hp : p.response ≠ .breaks)
    (hp' : p'.response ≠ .breaks) : startWith processors vars { s with probe := p } fuel =
      startWith processors vars { s with probe := p' } fuel := by
  have hintroduce : ∀ c handle asked, introduce c { s with probe := p } handle asked =
      introduce c { s with probe := p' } handle asked := by
    intro c handle asked
    obtain ⟨detail, h⟩ | h := provider_cases s
    · simp only [introduce, h]
    · rw [introduce_of_ok (s := { s with probe := p }) hp h,
        introduce_of_ok (s := { s with probe := p' }) hp' h]
      rfl
  simp only [startWith, start, connect, prepare, hintroduce]

end Service

end LogIntake
