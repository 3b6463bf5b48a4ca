import AnswerQuery.Proofs.Listing

/-! An output that runs out of room in the middle of a listing has taken exactly the front of the listing that fits. -/

namespace AnswerQuery

namespace Sink

/-- The output as it is handed back, whether or not it could take everything. -/
def handedBack : Except Sink Sink → Sink
  | .ok sink => sink
  | .error sink => sink

/-- What has become of an output with so much room when octets were written behind those it had taken. -/
inductive Took (before : Bytes) (room : Nat) (octets : Bytes) : Except Sink Sink → Prop where
  /-- They fit, and the room that they need is gone. -/
  | whole {sink : Sink} (fits : octets.length ≤ room) (left : sink.room = some (room - octets.length))
      (contents : sink.contents = before ++ octets) : Took before room octets (.ok sink)
  /-- They do not fit, and as many as there was room for were taken. -/
  | front {sink : Sink} (short : room < octets.length) (full : sink.room = some 0)
      (contents : sink.contents = before ++ octets.take room) : Took before room octets (.error sink)

namespace Took

variable {before octets more : Bytes} {room : Nat} {outcome : Except Sink Sink}

/-- An output hands itself back whole exactly if everything fits. -/
theorem ok_iff (took : Took before room octets outcome) :
    (∃ sink, outcome = .ok sink) ↔ octets.length ≤ room := by
  -- The two outcomes exclude each other, and so do the lengths.
  cases took with
  | whole fits => simp [fits]
  | front short => simp [short]

/-- In either case an output has taken the octets that fit. -/
theorem contents_handedBack (took : Took before room octets outcome) :
    (handedBack outcome).contents = before ++ octets.take room := by
  cases took with
  -- Taking no more than there is room for leaves out nothing that fits.
  | whole fits left contents => rw [List.take_of_length_le fits, handedBack, contents]
  | front short full contents => exact contents

/-- An output is handed back as an error, and full, exactly if not everything fits. -/
theorem error_iff (took : Took before room octets outcome) :
    (∃ sink, outcome = .error sink ∧ sink.room = some 0) ↔ room < octets.length := by
  cases took with
  | whole fits => simp [fits]
  | front short full => simp [short, full]

/-- Nothing is written behind octets that did not fit. -/
theorem append_of_front {sink : Sink} (took : Took before room octets (.error sink)) (more : Bytes) :
    Took before room (octets ++ more) (.error sink) := by
  cases took with
  | front short full contents =>
    -- What comes behind makes the octets longer, and their front is the same.
    refine .front ?_ full ?_
    · rw [List.length_append]
      exact Nat.lt_add_right _ short
    · rw [contents, List.take_append_of_le_length (Nat.le_of_lt short)]

/-- Octets that are written behind others that fit are taken as if all of them had been written at once. -/
theorem append_of_whole {sink : Sink} (took : Took before room octets (.ok sink))
    (later : Took sink.contents (room - octets.length) more outcome) :
    Took before room (octets ++ more) outcome := by
  cases took with
  | whole fits left contents =>
    rw [contents] at later
    -- The room that is left decides about the later octets, and with them about all.
    cases later with
    | whole fits' left' contents' =>
      refine .whole ?_ ?_ ?_
      · rw [List.length_append]
        omega
      · rw [left', List.length_append, Nat.sub_add_eq]
      · rw [contents', List.append_assoc]
    | front short full contents' =>
      -- All of the earlier octets are in the front that fits.
      refine .front ?_ full ?_
      · rw [List.length_append]
        omega
      · rw [contents', List.take_append, List.take_of_length_le fits, List.append_assoc]

end Took

/-- One piece is taken as far as it fits. -/
theorem took_put {sink : Sink} {room : Nat} (limited : sink.room = some room) (piece : Bytes) :
    Took sink.contents room piece (sink.put piece) := by
  obtain ⟨left, pieces⟩ := sink
  subst limited
  rw [put]
  -- An output whose room is not limited is another case.
  split
  case h_1 unlimited => cases unlimited
  case h_2 known =>
    cases known
    split
    case isTrue fits => exact .whole fits rfl (contents_cons _ _ _)
    case isFalse short => exact .front (Nat.lt_of_not_le short) rfl (contents_cons _ _ _)

/-- Texts that are written one after the other are taken as far as their octets fit. -/
theorem took_foldlM_putText (texts : List Text) {sink : Sink} {room : Nat} (limited : sink.room = some room) :
    Took sink.contents room (Utf8.encode texts.flatten) (texts.foldlM putText sink) := by
  -- The first text leaves less room for the others, or is the last of which anything is taken.
  induction texts generalizing sink room with
  | nil => exact .whole (Nat.zero_le _) limited (List.append_nil _).symm
  | cons text texts ih =>
    have first := took_put limited (Utf8.encode text)
    rw [List.foldlM_cons, putText, List.flatten_cons, Utf8.encode_append]
    cases written : sink.put (Utf8.encode text) with
    | ok next =>
      rw [written] at first
      cases first with
      | whole fits left contents => exact Took.append_of_whole (.whole fits left contents) (ih left)
    | error full =>
      -- The writing ends here, and the output is handed back as it is.
      rw [written] at first
      exact first.append_of_front _

end Sink

/-- A listing is taken as far as its octets fit. -/
theorem Format.took_writeBlocks (format : Format) (blocks : List Text) {sink : Sink} {room : Nat}
    (limited : sink.room = some room) :
    Sink.Took sink.contents room (format.listing blocks) (format.writeBlocks blocks sink) := by
  -- A listing consists of the pieces that it is written in.
  have taken := Sink.took_foldlM_putText
    (blocks.flatMap fun block => format.modelPieces (blockLiterals block)) limited
  rwa [← writeBlocks_eq_foldlM, ← List.flatMap_map blockLiterals, ← listingText, ← listing_eq_encode] at taken

/--
An output with limited room takes a listing whole exactly if the listing has no more octets than that.

If it has more, the output is handed back full. In either case it holds the front of the listing that fits,
wherever that ends.
-/
theorem listing_is_taken_as_far_as_it_fits (format : Format) (blocks : List Text) (capacity : Nat) :
    let whole := format.listing blocks
    let outcome := format.writeBlocks blocks (.empty (some capacity))
    ((∃ sink, outcome = .ok sink) ↔ whole.length ≤ capacity) ∧
      ((∃ sink, outcome = .error sink ∧ sink.room = some 0) ↔ capacity < whole.length) ∧
      (Sink.handedBack outcome).contents = whole.take (min capacity whole.length) := by
  intro whole outcome
  have limited : (Sink.empty (some capacity)).room = some capacity := rfl
  have took : Sink.Took _ capacity whole outcome := format.took_writeBlocks blocks limited
  -- An empty output has taken nothing before.
  rw [Sink.contents_empty] at took
  refine ⟨took.ok_iff, took.error_iff, ?_⟩
  rw [took.contents_handedBack, List.nil_append]
  exact List.take_eq_take_min

/-- Between the two octets of a character an output is full as well. -/
example :
    let outcome := Format.text.writeBlocks ["aé".toList] (.empty (some 2))
    outcome.isOk = false ∧ (Sink.handedBack outcome).contents = [0x61, 0xC3] := by decide

end AnswerQuery
