import LogIntake.Proofs.Config.Usable
import LogIntake.Proofs.Net.Literal

/-!
# IP addresses as hosts

A listener puts a colon and its port behind its host before it reads the two as one socket address.
That takes an IPv4 address as a host as it stands. An IPv6 address has colons of its own, so it is
refused unless it comes with the brackets in which it stands in a socket address.

No other hosts are taken: the host is usable exactly where it spells an address in front of a port
(`socketAddress_eq_ok`).
-/

namespace LogIntake.Config.Listener

open Net (Literal SocketAddress)
open Net.SocketAddress (Spells)

/-- What becomes of IP addresses that are given as hosts together with a port. -/
structure Literals (port : UInt16) : Prop where
  v4 : ∀ a b c d : UInt8,
    socketAddress ⟨String.ofList (SocketAddress.writeOctets a b c d), port⟩ =
      .ok ⟨.v4 a b c d, port⟩
  v6 : ∀ l : Literal, socketAddress ⟨String.ofList l.text, port⟩ =
    .error (.unusable "HOST"
      (String.ofList l.text ++ ":" ++ toString port ++ ": invalid socket address syntax"))
  bracketed : ∀ l : Literal, socketAddress ⟨"[" ++ String.ofList l.text ++ "]", port⟩ =
    .ok ⟨.v6 l.groups 0, port⟩
  /-- Whatever the host is, it spells the address that is read, and the port is not lost in it. -/
  only : ∀ (host : String) (a : SocketAddress), socketAddress ⟨host, port⟩ = .ok a →
    Spells host.toList a.ip ∧ a.port = port

/-- **A host** is usable exactly where it spells an address. -/
theorem socketAddress_eq_ok {l : Listener} {a : SocketAddress} :
    l.socketAddress = .ok a ↔ Spells l.host.toList a.ip ∧ a.port = l.port := by
  rw [socketAddress, toList_address, ← SocketAddress.ofText?_iff]
  cases SocketAddress.ofText? (l.host.toList ++ ':' :: Nat.toDigits 10 l.port.toNat) <;> simp

theorem socketAddress_of_not_spells {l : Listener} (h : ∀ ip, ¬ Spells l.host.toList ip) :
    l.socketAddress =
      .error (.unusable "HOST" (l.address ++ ": invalid socket address syntax")) := by
  rw [socketAddress, toList_address]
  cases hread : SocketAddress.ofText? (l.host.toList ++ ':' :: Nat.toDigits 10 l.port.toNat) with
  | none => rfl
  | some a => exact absurd (SocketAddress.ofText?_iff.mp hread).1 (h a.ip)

/-- An IPv6 address without brackets is refused. -/
theorem socketAddress_literal (l : Literal) (port : UInt16) :
    socketAddress ⟨String.ofList l.text, port⟩ = .error (.unusable "HOST"
      (String.ofList l.text ++ ":" ++ toString port ++ ": invalid socket address syntax")) := by
  refine socketAddress_of_not_spells ?_
  rw [String.toList_ofList]
  exact l.not_spells

/-- **IP addresses as hosts**: an IPv4 address is taken with every port, an IPv6 address in brackets
only. -/
theorem literals (port : UInt16) : Literals port where
  v4 a b c d := by
    refine socketAddress_eq_ok.mpr ⟨?_, rfl⟩
    rw [String.toList_ofList]
    exact .v4 a b c d
  v6 l := socketAddress_literal l port
  bracketed l := by
    refine socketAddress_eq_ok.mpr ⟨?_, rfl⟩
    have htext : ("[" ++ String.ofList l.text ++ "]").toList =
        '[' :: (l.text ++ ([] ++ [']'])) := by
      simp
    rw [htext]
    exact .v6 l .none
  only _ _ h := socketAddress_eq_ok.mp h

/-- The address that stands for every address of a machine is no host as it is written. -/
theorem not_forall_literal_usable : ¬ ∀ (l : Literal) (port : UInt16),
    socketAddress ⟨String.ofList l.text, port⟩ = .ok ⟨.v6 l.groups 0, port⟩ := by
  intro h
  have hok := h .unspecified 8080
  rw [socketAddress_literal] at hok
  cases hok

end LogIntake.Config.Listener
