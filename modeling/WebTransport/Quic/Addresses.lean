import WebTransport.Quic.Closing

/-!
# Quic.Addresses — the path of a connection and discarded datagrams

`receive` overwrites the path of the connection with the addresses of the datagram and takes a
snapshot to go back to when ngtcp2 discards it.  The snapshot is taken behind the overwriting, so what
is restored are the addresses of the datagram: a discarded datagram keeps the path exactly when it came
over that path, or over addresses that cannot be parsed.
-/

namespace WebTransport
namespace Quic

open QuicConnection

variable {N : Ngtcp2}

namespace QuicConnection

/-- The addresses of a datagram that can be parsed are those of `path`. -/
def CameOver (N : Ngtcp2) (datagram : Datagram) (path : Ngtcp2Path N.Addr) : Prop :=
  ∀ near remote, N.fillSockaddr datagram.localHost datagram.localPort = some near →
    N.fillSockaddr datagram.remoteHost datagram.remotePort = some remote →
      path = ⟨near, remote⟩

/-- The packet makes ngtcp2 call `path_validation_cb`. -/
def ValidatesPath (s : QuicConnection N) (datagram : Datagram) (now : Nat) : Prop :=
  ∃ moved, s.updatePathAddresses datagram = some moved ∧
    ∃ path success reason, Callback.pathValidation path success reason ∈
      (N.readPkt moved.conn moved.path datagram.data now).2.1

/-- Every exit of `receive` that discards puts the snapshot back. -/
theorem afterRead_discarded {s : QuicConnection N} {saved : Ngtcp2Path N.Addr} {pktRecv : Nat}
    {rv : Int} (h : (s.afterRead saved pktRecv rv).2 = .discarded) :
    (s.afterRead saved pktRecv rv).1.path = saved := by
  unfold afterRead at h ⊢
  split_ifs at h ⊢
  all_goals rfl

/-- What is left of the path behind a discarded datagram. -/
theorem receive_discarded {s : QuicConnection N} {datagram : Datagram} {now : Nat}
    (h : (s.receive datagram now).2 = .discarded) :
    (s.receive datagram now).1.path =
      ((s.updatePathAddresses datagram).map QuicConnection.path).getD s.path := by
  simp only [receive] at h ⊢
  split_ifs at h ⊢
  cases hpath : s.updatePathAddresses datagram with
  | none => rfl
  | some moved =>
      simp only [hpath] at h ⊢
      exact afterRead_discarded h

theorem updatePathAddresses_path (s : QuicConnection N) (datagram : Datagram) :
    ((s.updatePathAddresses datagram).map QuicConnection.path).getD s.path = s.path ↔
      CameOver N datagram s.path := by
  unfold updatePathAddresses CameOver
  cases hnear : N.fillSockaddr datagram.localHost datagram.localPort with
  | none => simp
  | some near =>
      cases hremote : N.fillSockaddr datagram.remoteHost datagram.remotePort with
      | none => simp
      | some remote =>
          constructor
          · intro hsame near' remote' hnear' hremote'
            cases hnear'
            cases hremote'
            exact hsame.symm
          · intro hsame
            exact (hsame near remote rfl rfl).symm

end QuicConnection

/-- In every state, reachable or not: a discarded datagram leaves the path as it was if and only if it
came over that path. -/
theorem discarded_keeps_path_iff (s : QuicConnection N) (datagram : Datagram) (now : Nat)
    (hdiscarded : (s.receive datagram now).2 = .discarded) :
    (s.receive datagram now).1.path = s.path ↔ CameOver N datagram s.path := by
  rw [receive_discarded hdiscarded]
  exact updatePathAddresses_path s datagram

/-- A packet that does not decrypt, over the path of the connection. -/
theorem discarded_keeps_path_idle :
    (idleConnection.receive ⟨[0], [], 1, [], 2⟩ 5).2 = .discarded ∧
      ((idleConnection.receive ⟨[0], [], 1, [], 2⟩ 5).1.path = idleConnection.path ↔
        CameOver idle ⟨[0], [], 1, [], 2⟩ idleConnection.path) :=
  ⟨rfl, discarded_keeps_path_iff idleConnection ⟨[0], [], 1, [], 2⟩ 5 rfl⟩

/-- The same packet from another port moves the connection there. -/
theorem discarded_moves_path :
    ¬ ∀ (turns : List (Turn Nat)) (s : QuicConnection idle), Path Takes idleConnection turns s →
      ∀ (datagram : Datagram) (now : Nat), (s.receive datagram now).2 = .discarded →
        ¬ s.ValidatesPath datagram now → (s.receive datagram now).1.path = s.path := by
  intro hkeeps
  have hquiet : ¬ idleConnection.ValidatesPath ⟨[0], [], 1, [], 99⟩ 5 := by
    rintro ⟨moved, -, path, success, reason, hmem⟩
    simp at hmem
  have hsame := hkeeps [] idleConnection rfl ⟨[0], [], 1, [], 99⟩ 5 rfl hquiet
  have hmoved : (idleConnection.receive ⟨[0], [], 1, [], 99⟩ 5).1.path = ⟨1, 99⟩ := rfl
  rw [hmoved] at hsame
  cases hsame

end Quic
end WebTransport
