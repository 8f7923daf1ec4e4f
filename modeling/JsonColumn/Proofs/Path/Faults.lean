import JsonColumn.Proofs.Path.Reading

/-!
Where reading fails: at the first character that the reader refuses, or at the end of the text. What
the reader has behind it there tells what is wrong with the text.
-/

namespace JsonColumn.Path

namespace Reader

variable {limit : Int} {reader : Reader} {fault : PathFault}

theorem complete_eq_error_iff {segment : Segment} :
    reader.complete limit segment = .error fault ↔
      limit ≤ reader.segments.length ∧ fault = .tooDeep limit := by
  unfold complete
  by_cases full : limit ≤ reader.segments.length
  · simp [full, eq_comm]
  · simp [full]

theorem endKey_eq_error_iff : reader.endKey limit = .error fault ↔ reader.pending ≠ "" ∧
    ((∃ cause, Key.fault? reader.pending = some cause ∧ fault = .key reader.pending cause) ∨
      (∃ key, Key.ofText reader.pending = .ok key) ∧ limit ≤ reader.segments.length ∧
        fault = .tooDeep limit) := by
  unfold endKey
  by_cases empty : reader.pending = ""
  · simp [empty]
  · rw [if_neg empty]
    constructor
    · intro failed
      refine ⟨empty, ?_⟩
      rcases Outcome.bind_eq_error_iff.mp failed with refused | ⟨key, accepted, full⟩
      · exact .inl ((Key.ofText_eq_error_iff _ _).mp refused)
      · exact .inr ⟨⟨key, accepted⟩, complete_eq_error_iff.mp full⟩
    · rintro ⟨-, refused | ⟨⟨key, accepted⟩, full⟩⟩
      · exact Outcome.bind_eq_error_iff.mpr (.inl ((Key.ofText_eq_error_iff _ _).mpr refused))
      · exact Outcome.bind_eq_error_iff.mpr
          (.inr ⟨key, accepted, complete_eq_error_iff.mpr full⟩)

theorem endIndex_eq_error_iff {opened : Nat} : reader.endIndex limit opened = .error fault ↔
    (reader.pending = "" ∧ fault = .emptyIndex opened) ∨
    (18 < reader.pending.length ∧ fault = .longIndex reader.pending.length) ∨
    (reader.pending ≠ "" ∧ reader.pending.length ≤ 18 ∧ limit ≤ reader.segments.length ∧
      fault = .tooDeep limit) := by
  unfold endIndex
  by_cases empty : reader.pending = ""
  · simp [empty, eq_comm]
  · rw [if_neg empty]
    by_cases long : 18 < reader.pending.length
    · have refused : readIndex reader.pending = .error (.longIndex reader.pending.length) := by
        simp [readIndex, maxIndexDigits, long]
      have short : ¬reader.pending.length ≤ 18 := by omega
      rw [refused]
      simp [bind, Except.bind, empty, long, short, eq_comm]
    · have short : reader.pending.length ≤ 18 := by omega
      rw [readIndex_eq_ok_iff.mpr ⟨short, rfl⟩]
      simp only [empty, long, short, false_and, false_or, ne_eq, not_false_eq_true, true_and]
      exact Outcome.bind_ok_eq_error_iff.trans complete_eq_error_iff

theorem feed_eq_error_iff_take {c : Char} :
    reader.feed limit c = .error fault ↔ reader.take limit c = .error fault :=
  Outcome.bind_ok_eq_error_iff

theorem feed_eq_error_iff {c : Char} : reader.feed limit c = .error fault ↔
    (reader.mode = .plain ∧ c ∈ Item.stops ∧ reader.endKey limit = .error fault) ∨
    ∃ opened, reader.mode = .index opened ∧
      (c = ']' ∧ reader.endIndex limit opened = .error fault ∨
        c ≠ ']' ∧ c.isDigit = false ∧ fault = .strayInIndex c reader.offset) := by
  rw [feed_eq_error_iff_take]
  cases mode : reader.mode with
  | quoted => simp [take, mode]
  | index opened =>
      by_cases bracket : c = ']'
      · simp [take, mode, bracket]
      · by_cases digit : c.isDigit = true
        · simp [take, mode, bracket, digit]
        · simp [take, mode, bracket, digit, eq_comm]
  | plain =>
      by_cases quote : c = '"'
      · subst quote
        simp [take, mode, Item.stops]
      · by_cases separator : c = '.' ∨ c = '$'
        · simp [take, mode, quote, separator, Item.separator_mem_stops separator]
        · by_cases bracket : c = '['
          · subst bracket
            have opening :
                reader.take limit '[' = .error fault ↔ reader.endKey limit = .error fault := by
              simp only [take, mode, quote, if_false, separator, if_true]
              exact Outcome.bind_ok_eq_error_iff
            simp [opening, Item.stops]
          · have inside : c ∉ Item.stops := by
              simp only [Item.stops, List.mem_cons, List.not_mem_nil, or_false]
              tauto
            simp [take, mode, quote, separator, bracket, inside]

theorem finish_eq_error_iff : reader.finish limit = .error fault ↔
    (reader.mode = .quoted ∧ fault = .unterminatedQuote) ∨
    (∃ opened, reader.mode = .index opened ∧ fault = .unterminatedIndex opened) ∨
    (reader.mode = .plain ∧ reader.endKey limit = .error fault) := by
  unfold finish
  cases mode : reader.mode with
  | quoted => simp [eq_comm]
  | index opened => simp [eq_comm]
  | plain =>
      have ending : (do
          let ended ← reader.endKey limit
          Except.ok ({ segments := ended.segments } : Path)) = .error fault ↔
          reader.endKey limit = .error fault :=
        Outcome.bind_ok_eq_error_iff
      simpa using ending

end Reader

variable {text : String} {limit : Int} {fault : PathFault}

theorem read_eq_error_iff : read text limit = .error fault ↔
    ('\x00' ∈ text.toList ∧ fault = .nullChar) ∨
    ('\x00' ∉ text.toList ∧
      ((∃ taken c rest reader, text.toList = taken ++ c :: rest ∧
          taken.foldlM (Reader.feed limit) {} = .ok reader ∧
          reader.feed limit c = .error fault) ∨
        ∃ reader, text.toList.foldlM (Reader.feed limit) {} = .ok reader ∧
          reader.finish limit = .error fault)) := by
  unfold read
  by_cases null : '\x00' ∈ text.toList
  · simp [null, eq_comm]
  · simp only [null, if_false, false_and, false_or, not_false_eq_true, true_and]
    rw [← Outcome.foldlM_eq_error_iff]
    exact Outcome.bind_eq_error_iff

theorem read_eq_nullChar_iff : read text limit = .error .nullChar ↔ '\x00' ∈ text.toList := by
  rw [read_eq_error_iff]
  constructor
  · rintro (⟨null, -⟩ | ⟨-, ⟨taken, c, rest, reader, -, -, refused⟩ | ⟨reader, -, refused⟩⟩)
    · exact null
    · simp [Reader.feed_eq_error_iff, Reader.endKey_eq_error_iff, Reader.endIndex_eq_error_iff]
        at refused
    · simp [Reader.finish_eq_error_iff, Reader.endKey_eq_error_iff] at refused
  · intro null
    exact .inl ⟨null, rfl⟩

theorem outcome_parse_eq_error_iff {found : Fault} : (parse text limit).outcome = .error found ↔
    ∃ fault, read text limit = .error fault ∧ found = .rejection (.path text fault) := by
  unfold parse
  split
  · rename_i fault failed
    simp [failed, eq_comm]
  · rename_i path accepted
    rw [accepted]
    change (Except.ok path : Except Fault Path) = .error found ↔ _
    simp

def Raises (text : String) (limit : Int) (kind : RejectionKind) : Prop :=
  ∃ rejection, (parse text limit).outcome = .error (.rejection rejection) ∧ rejection.kind = kind

theorem raises_iff {kind : RejectionKind} : Raises text limit kind ↔
    ∃ fault, read text limit = .error fault ∧ fault.kind = kind := by
  constructor
  · rintro ⟨rejection, failed, same⟩
    obtain ⟨fault, refused, found⟩ := outcome_parse_eq_error_iff.mp failed
    cases found
    exact ⟨fault, refused, same⟩
  · rintro ⟨fault, refused, same⟩
    exact ⟨_, outcome_parse_eq_error_iff.mpr ⟨fault, refused, rfl⟩, same⟩

end JsonColumn.Path
