import JsonColumn.Proofs.Path.Faults

/-!
The limit on the depth of a path. Readings with different limits go the same way up to the segment
that is one too many for the smaller limit.
-/

namespace JsonColumn.Path

namespace Reader

variable {limit more : Int}

theorem complete_cutOf (le : limit ≤ more) (reader : Reader) (segment : Segment) :
    Outcome.CutOf (.tooDeep limit) (reader.complete limit segment)
      (reader.complete more segment) := by
  unfold complete
  by_cases full : limit ≤ reader.segments.length
  · left
    rw [if_pos full]
  · right
    rw [if_neg full, if_neg (by omega)]

theorem endKey_cutOf (le : limit ≤ more) (reader : Reader) :
    Outcome.CutOf (.tooDeep limit) (reader.endKey limit) (reader.endKey more) := by
  unfold endKey
  split
  · exact .inr rfl
  · exact .bind (.inr rfl) fun key => complete_cutOf le reader (.key key)

theorem endIndex_cutOf (le : limit ≤ more) (reader : Reader) (opened : Nat) :
    Outcome.CutOf (.tooDeep limit) (reader.endIndex limit opened)
      (reader.endIndex more opened) := by
  unfold endIndex
  split
  · exact .inr rfl
  · refine .bind (.inr rfl) fun position => ?_
    exact .bind (complete_cutOf le reader (.index position)) fun closed => .inr rfl

theorem take_cutOf (le : limit ≤ more) (reader : Reader) (c : Char) :
    Outcome.CutOf (.tooDeep limit) (reader.take limit c) (reader.take more c) := by
  unfold take
  split
  · exact .inr rfl
  · rename_i opened mode
    split
    · exact endIndex_cutOf le reader opened
    · exact .inr rfl
  · split
    · exact .inr rfl
    split
    · exact endKey_cutOf le reader
    split
    · exact .bind (endKey_cutOf le reader) fun ended => .inr rfl
    · exact .inr rfl

theorem feed_cutOf (le : limit ≤ more) (reader : Reader) (c : Char) :
    Outcome.CutOf (.tooDeep limit) (reader.feed limit c) (reader.feed more c) :=
  .bind (take_cutOf le reader c) fun _ => .inr rfl

theorem finish_cutOf (le : limit ≤ more) (reader : Reader) :
    Outcome.CutOf (.tooDeep limit) (reader.finish limit) (reader.finish more) := by
  unfold finish
  split
  · exact .inr rfl
  · exact .inr rfl
  · exact .bind (endKey_cutOf le reader) fun _ => .inr rfl

end Reader

theorem read_cutOf {limit more : Int} (le : limit ≤ more) (text : String) :
    Outcome.CutOf (.tooDeep limit) (read text limit) (read text more) := by
  unfold read
  split
  · exact .inr rfl
  · exact .bind (.foldlM (Reader.feed_cutOf le) text.toList {}) (Reader.finish_cutOf le)

theorem Denotes.length_le {items : List Item} {segments : List Segment}
    (denotes : Denotes items segments) (wellFormed : ∀ item ∈ items, item.WellFormed) :
    segments.length ≤ (items.flatMap Item.text).length := by
  induction denotes with
  | nil => simp
  | separator c _ ih =>
      have later := ih (List.forall_mem_cons.mp wellFormed).2
      simp only [List.flatMap_cons, List.length_append]
      omega
  | index digits _ ih =>
      have later := ih (List.forall_mem_cons.mp wellFormed).2
      simp only [List.flatMap_cons, List.length_append, List.length_cons, Item.text]
      omega
  | key key _ ih =>
      obtain ⟨⟨filled, -⟩, others⟩ := List.forall_mem_cons.mp wellFormed
      have later := ih others
      have some : 0 < key.name.toList.length := List.length_pos_iff.mpr filled
      simp only [List.flatMap_cons, List.length_append, List.length_cons, Item.text]
      omega

namespace Reader

variable {limit : Int} {reader : Reader} {fault : PathFault}

theorem Follows.length_le {taken : List Char} (follows : Follows limit taken reader) :
    reader.segments.length + reader.pending.length ≤ taken.length := by
  obtain ⟨-, items, text, rfl, front, started⟩ := follows
  have complete := front.denotes.length_le front.wellFormed
  have pending : reader.pending.toList.length ≤ text.length := by
    cases mode : reader.mode with
    | plain =>
        rw [mode] at started
        obtain ⟨-, -, rfl⟩ := started
        exact Nat.le_refl _
    | quoted =>
        rw [mode] at started
        obtain ⟨-, rfl, -⟩ := started
        exact Nat.le_refl _
    | index opened =>
        rw [mode] at started
        obtain ⟨-, rfl, -⟩ := started
        exact Nat.le_succ _
  rw [String.length_toList] at pending
  rw [List.length_append]
  omega

theorem full_of_endKey (failed : reader.endKey limit = .error fault) (deep : fault.kind = .depth) :
    reader.pending ≠ "" ∧ limit ≤ reader.segments.length ∧ fault = .tooDeep limit := by
  obtain ⟨filled, ⟨cause, -, rfl⟩ | ⟨-, full⟩⟩ := endKey_eq_error_iff.mp failed
  · cases deep
  · exact ⟨filled, full⟩

theorem full_of_feed {c : Char} (failed : reader.feed limit c = .error fault)
    (deep : fault.kind = .depth) :
    reader.pending ≠ "" ∧ limit ≤ reader.segments.length ∧ fault = .tooDeep limit := by
  rcases feed_eq_error_iff.mp failed with
    ⟨-, -, ended⟩ | ⟨opened, -, ⟨-, ended⟩ | ⟨-, -, rfl⟩⟩
  · exact full_of_endKey ended deep
  · rcases endIndex_eq_error_iff.mp ended with ⟨-, rfl⟩ | ⟨-, rfl⟩ | ⟨filled, -, full⟩
    · cases deep
    · cases deep
    · exact ⟨filled, full⟩
  · cases deep

theorem full_of_finish (failed : reader.finish limit = .error fault)
    (deep : fault.kind = .depth) :
    reader.pending ≠ "" ∧ limit ≤ reader.segments.length ∧ fault = .tooDeep limit := by
  rcases finish_eq_error_iff.mp failed with ⟨-, rfl⟩ | ⟨opened, -, rfl⟩ | ⟨-, ended⟩
  · cases deep
  · cases deep
  · exact full_of_endKey ended deep

theorem Follows.lt_length {taken : List Char} (follows : Follows limit taken reader)
    (filled : reader.pending ≠ "") (full : limit ≤ reader.segments.length) :
    limit < taken.length := by
  have size := follows.length_le
  have some : 0 < reader.pending.length := by
    rw [← String.length_toList]
    exact List.length_pos_iff.mpr (by simpa using filled)
  omega

end Reader

theorem tooDeep_of_read {text : String} {limit : Int} {fault : PathFault}
    (failed : read text limit = .error fault) (deep : fault.kind = .depth) :
    fault = .tooDeep limit ∧ limit < text.length := by
  rcases read_eq_error_iff.mp failed with
    ⟨-, rfl⟩ | ⟨-, ⟨taken, c, rest, reader, split, run, refused⟩ | ⟨reader, run, refused⟩⟩
  · cases deep
  · obtain ⟨filled, full, same⟩ := Reader.full_of_feed refused deep
    have early := (Reader.Follows.of_run run).lt_length filled full
    have size : text.length = taken.length + (rest.length + 1) := by
      rw [← String.length_toList, split, List.length_append, List.length_cons]
    exact ⟨same, by omega⟩
  · obtain ⟨filled, full, same⟩ := Reader.full_of_finish refused deep
    exact ⟨same, (Reader.Follows.of_run run).lt_length filled full⟩

theorem raises_depth_iff {text : String} {limit : Int} :
    Raises text limit .depth ↔ read text limit = .error (.tooDeep limit) := by
  rw [raises_iff]
  constructor
  · rintro ⟨fault, failed, deep⟩
    rw [failed, (tooDeep_of_read failed deep).1]
  · intro failed
    exact ⟨_, failed, rfl⟩

theorem parse_eq_of_not_raises {text : String} {limit more : Int}
    (shallow : ¬Raises text limit .depth) (le : limit ≤ more) :
    parse text more = parse text limit := by
  rw [raises_depth_iff] at shallow
  have same : read text limit = read text more := (read_cutOf le text).resolve_left shallow
  rw [parse, parse, same]

/-- A limit cuts reading off and does nothing else: outcomes that do not fail for depth are the same
within any greater limit. -/
theorem parse_limit_cuts (text : String) (limit : Nat) :
    (¬Raises text limit .depth → ∀ more : Nat, limit ≤ more →
      parse text more = parse text limit) ∧
    (∀ (enough : Nat) (path : Path), (parse text enough).outcome = .ok path →
      (path.length ≤ limit → (parse text limit).outcome = .ok path) ∧
      (limit < path.length → Raises text limit .depth)) ∧
    (text.length ≤ limit → ¬Raises text limit .depth) := by
  refine ⟨?_, ?_, ?_⟩
  · intro shallow more le
    exact parse_eq_of_not_raises shallow (Int.ofNat_le.mpr le)
  · intro enough path parsed
    rw [outcome_parse_eq_ok_iff, read_eq_ok_iff] at parsed
    obtain ⟨clear, items, decomposes, denotes, -⟩ := parsed
    have within : ∀ limit : Int, path.length ≤ limit.toNat →
        (parse text limit).outcome = .ok path := by
      intro limit depth
      exact outcome_parse_eq_ok_iff.mpr
        (read_eq_ok_iff.mpr ⟨clear, items, decomposes, denotes, depth⟩)
    refine ⟨fun depth => within limit depth, fun deep => ?_⟩
    by_contra shallow
    have same := parse_eq_of_not_raises shallow (Int.ofNat_le.mpr deep.le)
    have parsed : (parse text limit).outcome = .ok path := by
      rw [← same]
      exact within path.length (by simp)
    rw [outcome_parse_eq_ok_iff, read_eq_ok_iff] at parsed
    obtain ⟨-, -, -, -, depth⟩ := parsed
    simp only [Int.toNat_natCast] at depth
    omega
  · intro enough raises
    have short := (tooDeep_of_read (raises_depth_iff.mp raises) rfl).2
    omega

def keysAroundIndex : Path where
  segments := [.key ⟨"a", by decide⟩, .index 1, .key ⟨"b", by decide⟩]

theorem parse_limit_cuts_keysAroundIndex :
    Raises "a[1].b" 2 .depth ∧ (parse "a[1].b" 3).outcome = .ok keysAroundIndex ∧
      ¬Raises "a[1].b" 6 .depth ∧ parse "a[1].b" 64 = parse "a[1].b" 6 := by
  have parsed : (parse "a[1].b" (64 : Nat)).outcome = .ok keysAroundIndex := by rfl
  have tooSmall := ((parse_limit_cuts "a[1].b" 2).2.1 64 keysAroundIndex parsed).2 (by decide)
  have largeEnough := ((parse_limit_cuts "a[1].b" 3).2.1 64 keysAroundIndex parsed).1 (by decide)
  obtain ⟨same, -, never⟩ := parse_limit_cuts "a[1].b" 6
  have shallow := never (by decide)
  exact ⟨tooSmall, largeEnough, shallow, same shallow 64 (by decide)⟩

end JsonColumn.Path
