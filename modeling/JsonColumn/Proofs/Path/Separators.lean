import JsonColumn.Proofs.Path.Faults

/-!
Texts with separators between them. Nothing of the text before a separator has a part in how the
text after it is read, but for the segments that it has used up.
-/

namespace JsonColumn

def Path.Mode.moved (shift : Nat) : Path.Mode → Path.Mode
  | .index opened => .index (shift + opened)
  | mode => mode

/-- A fault as it is reported with `count` segments and `shift` characters before the text. -/
def PathFault.moved (count shift : Nat) : PathFault → PathFault
  | unterminatedIndex opened => unterminatedIndex (shift + opened)
  | emptyIndex opened => emptyIndex (shift + opened)
  | strayInIndex found offset => strayInIndex found (shift + offset)
  | tooDeep limit => tooDeep (limit + count)
  | fault => fault

theorem PathFault.kind_moved (count shift : Nat) (fault : PathFault) :
    (fault.moved count shift).kind = fault.kind := by
  cases fault <;> rfl

namespace Path

namespace Reader

def after (front : List Segment) (shift : Nat) (reader : Reader) : Reader where
  mode := reader.mode.moved shift
  pending := reader.pending
  segments := front ++ reader.segments
  offset := shift + reader.offset

@[simp] theorem pending_after (front : List Segment) (shift : Nat) (reader : Reader) :
    (reader.after front shift).pending = reader.pending := rfl

@[simp] theorem mode_after (front : List Segment) (shift : Nat) (reader : Reader) :
    (reader.after front shift).mode = reader.mode.moved shift := rfl

variable (limit : Int) (front : List Segment) (shift : Nat) (reader : Reader)

theorem complete_after (segment : Segment) :
    (reader.after front shift).complete (limit + front.length) segment =
      Outcome.relabel (.moved front.length shift) (after front shift)
        (reader.complete limit segment) := by
  have size : ((reader.after front shift).segments.length : Int) =
      front.length + reader.segments.length := by
    simp [after]
  unfold complete
  by_cases full : limit ≤ reader.segments.length
  · rw [if_pos full, if_pos (by omega)]
    rfl
  · rw [if_neg full, if_neg (by omega)]
    simp [Outcome.relabel, after]

theorem endKey_after : (reader.after front shift).endKey (limit + front.length) =
    Outcome.relabel (.moved front.length shift) (after front shift) (reader.endKey limit) := by
  unfold endKey
  rw [pending_after]
  by_cases empty : reader.pending = ""
  · rw [if_pos empty, if_pos empty]
    rfl
  · rw [if_neg empty, if_neg empty]
    cases accepted : Key.ofText reader.pending with
    | error fault =>
        obtain ⟨cause, -, rfl⟩ := (Key.ofText_eq_error_iff _ _).mp accepted
        rfl
    | ok key => exact reader.complete_after limit front shift (.key key)

theorem endIndex_after (opened : Nat) :
    (reader.after front shift).endIndex (limit + front.length) (shift + opened) =
      Outcome.relabel (.moved front.length shift) (after front shift)
        (reader.endIndex limit opened) := by
  unfold endIndex readIndex
  rw [pending_after]
  by_cases empty : reader.pending = ""
  · rw [if_pos empty, if_pos empty]
    rfl
  · rw [if_neg empty, if_neg empty]
    by_cases long : reader.pending.length > maxIndexDigits
    · rw [if_pos long]
      rfl
    · rw [if_neg long]
      have completed := reader.complete_after limit front shift
        (.index (Nat.ofDigitChars 10 reader.pending.toList 0))
      change Except.bind (complete _ _ _) _ = _
      rw [completed]
      refine Outcome.relabel_bind (fun closed => ?_) _
      rfl

theorem take_after (c : Char) : (reader.after front shift).take (limit + front.length) c =
    Outcome.relabel (.moved front.length shift) (after front shift) (reader.take limit c) := by
  unfold take
  rw [mode_after]
  cases mode : reader.mode with
  | quoted =>
      by_cases quote : c = '"'
      · simp [after, Mode.moved, quote, Outcome.relabel]
      · simp [after, Mode.moved, quote, Outcome.relabel]
  | index opened =>
      simp only [Mode.moved]
      by_cases bracket : c = ']'
      · rw [if_pos bracket, if_pos bracket]
        exact reader.endIndex_after limit front shift opened
      · rw [if_neg bracket, if_neg bracket]
        by_cases digit : c.isDigit = true
        · rw [if_pos digit, if_pos digit]
          rfl
        · rw [if_neg digit, if_neg digit]
          rfl
  | plain =>
      simp only [Mode.moved]
      by_cases quote : c = '"'
      · rw [if_pos quote, if_pos quote]
        rfl
      · rw [if_neg quote, if_neg quote]
        by_cases separator : c = '.' ∨ c = '$'
        · rw [if_pos separator, if_pos separator]
          exact reader.endKey_after limit front shift
        · rw [if_neg separator, if_neg separator]
          by_cases bracket : c = '['
          · rw [if_pos bracket, if_pos bracket, endKey_after]
            refine Outcome.relabel_bind (fun ended => ?_) _
            rfl
          · rw [if_neg bracket, if_neg bracket]
            rfl

theorem feed_after (c : Char) : (reader.after front shift).feed (limit + front.length) c =
    Outcome.relabel (.moved front.length shift) (after front shift) (reader.feed limit c) := by
  unfold feed
  rw [take_after]
  refine Outcome.relabel_bind (fun next => ?_) _
  rfl

theorem finish_after : (reader.after front shift).finish (limit + front.length) =
    Outcome.relabel (.moved front.length shift)
      (fun path => { segments := front ++ path.segments }) (reader.finish limit) := by
  unfold finish
  rw [mode_after]
  cases mode : reader.mode with
  | quoted => rfl
  | index opened => rfl
  | plain =>
      simp only [Mode.moved]
      rw [endKey_after]
      refine Outcome.relabel_bind (fun ended => ?_) _
      rfl

theorem after_start : ({} : Reader).after front shift = { segments := front, offset := shift } := by
  simp [after, Mode.moved]

theorem Closes.feed_separators {limit : Int} {reader : Reader} {segments : List Segment}
    (closes : Closes limit reader segments) {row : List Char} (filled : row ≠ [])
    (separators : ∀ c ∈ row, c = '.' ∨ c = '$') :
    row.foldlM (feed limit) reader = .ok { segments, offset := reader.offset + row.length } := by
  induction row generalizing reader with
  | nil => exact absurd rfl filled
  | cons c row ih =>
      rw [List.forall_mem_cons] at separators
      rw [Outcome.foldlM_cons_of_ok (closes.feed_separator separators.1)]
      by_cases last : row = []
      · subst last
        rfl
      · rw [ih (.between limit segments _) last separators.2, List.length_cons, Nat.add_assoc,
          Nat.add_comm 1]

end Reader

theorem read_separated {first : String} {limit : Int} {path : Path}
    (success : read first limit = .ok path) {row : List Char} (filled : row ≠ [])
    (separators : ∀ c ∈ row, c = '.' ∨ c = '$') (second : String) :
    read (first ++ String.ofList row ++ second) limit =
      Outcome.relabel (.moved path.length (first.length + row.length))
        (fun more => { segments := path.segments ++ more.segments })
        (read second (limit - path.length)) := by
  obtain ⟨clear, reader, run, closes, follows⟩ := closes_of_read success
  have text : (first ++ String.ofList row ++ second).toList =
      first.toList ++ row ++ second.toList := by
    simp
  have clearRow : '\x00' ∉ row := fun null => absurd (separators _ null) (by decide)
  have started : (first.toList ++ row).foldlM (Reader.feed limit) {} =
      .ok (({} : Reader).after path.segments (first.length + row.length)) := by
    rw [Outcome.foldlM_append_of_ok run, closes.feed_separators filled separators, follows.offset,
      Reader.after_start, String.length_toList]
  unfold read
  by_cases null : '\x00' ∈ second.toList
  · rw [if_pos null, if_pos (by simp [text, null])]
    rfl
  · rw [if_neg null, if_neg (by simp [text, null, clear, clearRow]), text]
    change Except.bind _ _ = _
    rw [Outcome.foldlM_append_of_ok started]
    obtain ⟨rest, rfl⟩ : ∃ rest : Int, limit = rest + path.segments.length :=
      ⟨limit - path.segments.length, by omega⟩
    have left : rest + path.segments.length - path.length = rest := by
      rw [length]
      omega
    rw [left, Outcome.relabel_foldlM (Reader.feed_after rest path.segments _)]
    exact Outcome.relabel_bind (Reader.finish_after rest path.segments _) _

theorem read_empty (limit : Int) : read "" limit = .ok {} := rfl

theorem read_padded {text : String} {limit : Int} {path : Path}
    (success : read text limit = .ok path) {front back : List Char}
    (leading : ∀ c ∈ front, c = '.' ∨ c = '$') (trailing : ∀ c ∈ back, c = '.' ∨ c = '$') :
    read (String.ofList front ++ text ++ String.ofList back) limit = .ok path := by
  have led : read (String.ofList front ++ text) limit = .ok path := by
    by_cases bare : front = []
    · simpa [bare] using success
    · have whole := read_separated (read_empty limit) bare leading text
      have budget : limit - ({} : Path).length = limit := Int.sub_zero limit
      rw [budget, success, String.empty_append] at whole
      exact whole
  by_cases bare : back = []
  · simpa [bare] using led
  · have whole := read_separated led bare trailing ""
    rw [read_empty, String.append_empty] at whole
    rw [whole]
    simp [Outcome.relabel]

/-- After a path and separators a text is read as by itself within the rest of the limit, with
faults of the same kind. -/
theorem parse_separated {first : String} {limit : Int} {path : Path}
    (parsed : (parse first limit).outcome = .ok path) :
    (∀ row : List Char, row ≠ [] → (∀ c ∈ row, c = '.' ∨ c = '$') → ∀ second : String,
      (∀ more : Path,
        (parse (first ++ String.ofList row ++ second) limit).outcome =
            .ok { segments := path.segments ++ more.segments } ↔
          (parse second (limit - path.length)).outcome = .ok more) ∧
      ∀ kind, Raises (first ++ String.ofList row ++ second) limit kind ↔
        Raises second (limit - path.length) kind) ∧
    ∀ front back : List Char, (∀ c ∈ front ++ back, c = '.' ∨ c = '$') →
      (parse (String.ofList front ++ first ++ String.ofList back) limit).outcome = .ok path := by
  rw [outcome_parse_eq_ok_iff] at parsed
  constructor
  · intro row filled separators second
    have whole := read_separated parsed filled separators second
    constructor
    · intro more
      rw [outcome_parse_eq_ok_iff, outcome_parse_eq_ok_iff, whole, Outcome.relabel_eq_ok_iff]
      constructor
      · rintro ⟨found, success, same⟩
        have equal : found = more := congrArg Path.mk (List.append_cancel_left (Path.mk.inj same))
        rw [success, equal]
      · intro success
        exact ⟨more, success, rfl⟩
    · intro kind
      rw [raises_iff, raises_iff, whole]
      constructor
      · rintro ⟨fault, failed, rfl⟩
        obtain ⟨found, later, rfl⟩ := Outcome.relabel_eq_error_iff.mp failed
        exact ⟨found, later, (found.kind_moved _ _).symm⟩
      · rintro ⟨found, failed, rfl⟩
        exact ⟨_, Outcome.relabel_eq_error_iff.mpr ⟨found, failed, rfl⟩, found.kind_moved _ _⟩
  · intro front back separators
    rw [List.forall_mem_append] at separators
    exact outcome_parse_eq_ok_iff.mpr (read_padded parsed separators.1 separators.2)

def keyThenIndex : Path where
  segments := [.key ⟨"tags", by decide⟩, .index 0]

theorem parse_separated_keyThenIndex :
    (parse "tags[0]" 3).outcome = .ok keyThenIndex ∧
      (parse "tags[0].$b" 3).outcome =
        .ok { segments := keyThenIndex.segments ++ [.key ⟨"b", by decide⟩] } ∧
      Raises "tags[0].$b.c" 3 .depth ∧ (parse "$.tags[0].." 3).outcome = .ok keyThenIndex := by
  have parsed : (parse "tags[0]" 3).outcome = .ok keyThenIndex := rfl
  obtain ⟨separated, padded⟩ := parse_separated parsed
  have row := separated ['.', '$'] (by decide) (by simp)
  have single : (parse "b" 1).outcome = .ok { segments := [.key ⟨"b", by decide⟩] } := rfl
  have deep : Raises "b.c" 1 .depth := ⟨.path "b.c" (.tooDeep 1), rfl, rfl⟩
  exact ⟨parsed, ((row "b").1 _).mpr single, ((row "b.c").2 .depth).mpr deep,
    padded ['$', '.'] ['.', '.'] (by simp)⟩

end Path

end JsonColumn
