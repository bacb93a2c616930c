import Mathlib.Algebra.BigOperators.Group.List.Basic
import Mathlib.Algebra.GroupWithZero.Nat

/-! # Streams that come in pieces

A decoder looks at the front of a buffer and finds a message there, waits for
more, or fails. If more never changes what it has made of the bytes it had, the
messages of a stream do not depend on the pieces the stream comes in. A failure
may hide messages that came in the same piece.
-/

namespace Streaming

open List

variable {β μ ε : Type}

/-- What a decoder finds at the front of a buffer, with the bytes that this takes up. -/
structure Decoder (β μ ε : Type) where
  decode : List β → Except ε (Option (μ × Nat))
  size : μ → Nat
  takes : ∀ {bytes message n}, decode bytes = .ok (some (message, n)) →
    n = size message ∧ 0 < n ∧ n ≤ bytes.length
  found : ∀ {bytes message n} more, decode bytes = .ok (some (message, n)) →
    decode (bytes ++ more) = .ok (some (message, n))
  failed : ∀ {bytes error} more, decode bytes = .error error → decode (bytes ++ more) = .error error

namespace Decoder

variable (D : Decoder β μ ε)

/-- All messages at the front of a buffer, and what is left, or the error after them. -/
def drain (bytes : List β) : List μ × Except ε (List β) :=
  match _finds : D.decode bytes with
  | .error error => ([], .error error)
  | .ok none => ([], .ok bytes)
  | .ok (some (message, n)) =>
    let (messages, outcome) := drain (bytes.drop n)
    (message :: messages, outcome)
termination_by bytes.length
decreasing_by
  obtain ⟨-, more, inside⟩ := D.takes _finds
  rw [length_drop]
  omega

/-- Pieces of a stream, one after the other: the messages that are handed on until a piece fails. What
    was found in that piece is not handed on. -/
def feedAll (buffer : List β) : List (List β) → List μ × Except ε (List β)
  | [] => ([], .ok buffer)
  | chunk :: chunks =>
    match D.drain (buffer ++ chunk) with
    | (_, .error error) => ([], .error error)
    | (messages, .ok rest) =>
      let (more, outcome) := feedAll rest chunks
      (messages ++ more, outcome)

variable {D} {bytes more rest : List β} {messages : List μ} {message : μ} {n : Nat} {error : ε}

theorem drain_failed (fails : D.decode bytes = .error error) : D.drain bytes = ([], .error error) := by
  rw [drain]
  split
  next same => rw [fails] at same; cases same; rfl
  next same => rw [fails] at same; cases same
  next same => rw [fails] at same; cases same

theorem drain_waiting (waits : D.decode bytes = .ok none) : D.drain bytes = ([], .ok bytes) := by
  rw [drain]
  split
  next same => rw [waits] at same; cases same
  · rfl
  next same => rw [waits] at same; cases same

theorem drain_found (finds : D.decode bytes = .ok (some (message, n))) :
    D.drain bytes = (message :: (D.drain (bytes.drop n)).1, (D.drain (bytes.drop n)).2) := by
  rw [drain]
  split
  next same => rw [finds] at same; cases same
  next same => rw [finds] at same; cases same
  next same => rw [finds] at same; cases same; rfl

theorem drain_append (drained : D.drain bytes = (messages, .ok rest)) :
    D.drain (bytes ++ more) = (messages ++ (D.drain (rest ++ more)).1, (D.drain (rest ++ more)).2) := by
  induction bytes using drain.induct D generalizing messages with
  | case1 bytes error fails =>
    rw [drain_failed fails] at drained
    cases drained
  | case2 bytes waits =>
    rw [drain_waiting waits] at drained
    cases drained
    rfl
  | case3 bytes message n finds found outcome dropped ih =>
    rw [drain_found finds, dropped] at drained
    cases drained
    rw [drain_found (D.found more finds), drop_append_of_le_length (D.takes finds).2.2, ih dropped]
    rfl

theorem drain_append_error (drained : D.drain bytes = (messages, .error error)) :
    D.drain (bytes ++ more) = (messages, .error error) := by
  induction bytes using drain.induct D generalizing messages with
  | case1 bytes error' fails =>
    rw [drain_failed fails] at drained
    rw [drain_failed (D.failed more fails), drained]
  | case2 bytes waits =>
    rw [drain_waiting waits] at drained
    cases drained
  | case3 bytes message n finds found outcome dropped ih =>
    rw [drain_found finds, dropped] at drained
    cases drained
    rw [drain_found (D.found more finds), drop_append_of_le_length (D.takes finds).2.2, ih dropped]

theorem drain_rest (drained : D.drain bytes = (messages, .ok rest)) : D.drain rest = ([], .ok rest) := by
  induction bytes using drain.induct D generalizing messages with
  | case1 bytes error fails =>
    rw [drain_failed fails] at drained
    cases drained
  | case2 bytes waits =>
    have same := drain_waiting waits
    rw [same] at drained
    cases drained
    exact same
  | case3 bytes message n finds found outcome dropped ih =>
    rw [drain_found finds, dropped] at drained
    cases drained
    exact ih dropped

theorem length_drain (drained : D.drain bytes = (messages, .ok rest)) :
    bytes.length = (messages.map D.size).sum + rest.length := by
  induction bytes using drain.induct D generalizing messages with
  | case1 bytes error fails =>
    rw [drain_failed fails] at drained
    cases drained
  | case2 bytes waits =>
    rw [drain_waiting waits] at drained
    cases drained
    simp
  | case3 bytes message n finds found outcome dropped ih =>
    rw [drain_found finds, dropped] at drained
    cases drained
    obtain ⟨rfl, -, inside⟩ := D.takes finds
    have shorter := ih dropped
    rw [length_drop] at shorter
    rw [map_cons, sum_cons, Nat.add_assoc, ← shorter]
    omega

variable {buffer : List β} {chunks : List (List β)}

/-- A stream without an error gives the same messages and leaves the same rest, whatever pieces it comes
    in. -/
theorem feedAll_of_drain (settled : D.drain buffer = ([], .ok buffer))
    (drained : D.drain (buffer ++ chunks.flatten) = (messages, .ok rest)) :
    D.feedAll buffer chunks = (messages, .ok rest) := by
  induction chunks generalizing buffer messages with
  | nil =>
    rw [flatten_nil, append_nil, settled] at drained
    exact drained
  | cons chunk chunks ih =>
    rw [flatten_cons, ← append_assoc] at drained
    rw [feedAll]
    cases front : D.drain (buffer ++ chunk) with
    | mk found outcome =>
      cases outcome with
      | error =>
        rw [drain_append_error front] at drained
        cases drained
      | ok left =>
        rw [drain_append front] at drained
        obtain ⟨rfl, left⟩ := Prod.mk.inj drained
        dsimp only
        rw [ih (drain_rest front) (Prod.ext rfl left)]

/-- A stream with an error fails with the piece that brings it, and what came with the pieces before is
    handed on. -/
theorem feedAll_of_error (settled : D.drain buffer = ([], .ok buffer))
    (drained : D.drain (buffer ++ chunks.flatten) = (messages, .error error)) :
    ∃ before chunk after handed rest, chunks = before ++ chunk :: after ∧
      D.drain (buffer ++ before.flatten) = (handed, .ok rest) ∧
      D.drain (buffer ++ before.flatten ++ chunk) = (messages, .error error) ∧
      D.feedAll buffer chunks = (handed, .error error) := by
  induction chunks generalizing buffer messages with
  | nil =>
    rw [flatten_nil, append_nil, settled] at drained
    cases drained
  | cons chunk chunks ih =>
    rw [flatten_cons, ← append_assoc] at drained
    rw [feedAll]
    cases front : D.drain (buffer ++ chunk) with
    | mk found outcome =>
      cases outcome with
      | error =>
        rw [drain_append_error front] at drained
        cases drained
        exact ⟨[], chunk, chunks, [], buffer, rfl, by simpa using settled, by simpa using front, rfl⟩
      | ok left =>
        rw [drain_append front] at drained
        obtain ⟨rfl, left⟩ := Prod.mk.inj drained
        obtain ⟨before, last, after, handed, rest, rfl, early, late, fed⟩ :=
          ih (drain_rest front) (Prod.ext rfl left)
        refine ⟨chunk :: before, last, after, found ++ handed, rest, rfl, ?_, ?_, ?_⟩
        · rw [flatten_cons, ← append_assoc, drain_append front, early]
        · rw [flatten_cons, ← append_assoc, append_assoc (buffer ++ chunk),
            drain_append front, ← append_assoc, late]
        · dsimp only
          rw [fed]

end Decoder

end Streaming
