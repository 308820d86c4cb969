import ServiceOS.Ssh.Rounds

/-! # `feed` on hostile input

No input makes the transport read outside of a buffer, but for packets without a
payload: the byte taken for their type is the first of the padding, and a handler
that reads the fields behind it slices past the end. -/

namespace ServiceOS.Ssh

open ByteString Fallible

/-- A call returns, unless one of its rounds meets a hollow packet. -/
theorem feed_returns [Crypto] (transport : SshTransport) (bytes : Octets)
    (solid : ∀ round ∈ roundsOf bytes transport, hollow round = false) :
    ∃ result : Except Fail Feed,
      (feed bytes transport).1 = result.mapError fun error => .error (.error error) := by
  suffices clean : ∀ stop, (feed bytes transport).1 = .error stop → Clean False stop by
    rcases outcome : (feed bytes transport).1 with ((error | _) | _) | feed
    · exact ⟨.error error, rfl⟩
    · exact ((clean _ outcome).2 rfl).elim
    · exact absurd rfl (clean _ outcome).1
    · exact ⟨.ok feed, rfl⟩
  intro stop stopped
  rcases feed_cases bytes transport with ⟨-, error, refused⟩ | ⟨result, rounds, finished, same⟩
  · rw [refused] at stopped
    cases stopped
    exact clean_fail False error
  rw [same] at stopped
  rw [rounds] at solid
  apply Loop.iterate_preserves_visited (fun _ => True)
    (fun result => ∀ stop, result.1 = .error stop → Clean False stop)
    (fun _ _ _ _ _ => trivial) ?_ trivial finished stop stopped
  intro round member _ result ends stop same
  rcases (feedBody_ends ends).2 stop same with ⟨fuelled, hollowed⟩
  exact ⟨fuelled, fun panicked => by simpa [solid round member] using hollowed panicked⟩

section

open Sample

def Sample.ignored : Octets := toBigEndian 4 12 ++ 10 :: 2 :: List.replicate 10 0

/-- A packet without a payload, whose padding starts with a 1. -/
def Sample.hollowDisconnect : Octets := toBigEndian 4 12 ++ 11 :: 1 :: List.replicate 10 0

theorem feed_returns_on_ignored :
    (∀ round ∈ roundsOf (line ++ ignored) Sample.server, hollow round = false) ∧
      ∃ result : Except Fail Feed, (feed (line ++ ignored) Sample.server).1 =
        result.mapError fun error => .error (.error error) := by
  have solid : ∀ round ∈ roundsOf (line ++ ignored) Sample.server, hollow round = false := by
    decide +kernel
  exact ⟨solid, feed_returns Sample.server (line ++ ignored) solid⟩

theorem feed_panics_on_hollow_packet :
    (feed (line ++ hollowDisconnect) Sample.server).1 = .error (.error .panicked) := by
  decide +kernel

end
end ServiceOS.Ssh
