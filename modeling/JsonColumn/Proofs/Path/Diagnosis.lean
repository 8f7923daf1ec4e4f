import JsonColumn.Proofs.Path.Faults

/-!
What is wrong with a text whose reading fails inside an index or inside quotes. Before the place of
the fault stands a text that is a path by itself, and then the start of an index or of a quoted key.
-/

namespace JsonColumn.Path

/-- A text that is read as a path, then an opening bracket with digits, and whatever follows. -/
structure InIndex (limit : Int) (text : List Char) (before : String) (digits rest : List Char) :
    Prop where
  covers : text = before.toList ++ '[' :: (digits ++ rest)
  accepted : ∃ path, (parse before limit).outcome = .ok path
  areDigits : ∀ c ∈ digits, c.isDigit = true

def Misplaced (digits : List Char) (c : Char) : Prop :=
  c.isDigit = false ∧ c ≠ ']' ∨ c = ']' ∧ (digits = [] ∨ 18 < digits.length)

/-- A text that is read as a path, then more of a key, and a quote without its partner. -/
structure InQuotes (limit : Int) (text : List Char) (before : String) (run inside : List Char) :
    Prop where
  covers : text = before.toList ++ (run ++ '"' :: inside)
  accepted : ∃ path, (parse before limit).outcome = .ok path
  isRun : Item.IsRun run
  unquoted : '"' ∉ inside

def Reports (text : String) (limit : Int) (kind : RejectionKind) (details : String) : Prop :=
  ∃ rejection, (parse text limit).outcome = .error (.rejection rejection) ∧
    rejection.kind = kind ∧ rejection.details = details

section

variable {limit : Int} {text : String} {before : String} {fault : PathFault}

theorem reports_of_read (failed : read text limit = .error fault) :
    Reports text limit fault.kind (fault.details text) :=
  ⟨_, outcome_parse_eq_error_iff.mpr ⟨fault, failed, rfl⟩, rfl, rfl⟩

theorem Reports.raises {kind : RejectionKind} {details : String}
    (reports : Reports text limit kind details) : Raises text limit kind := by
  obtain ⟨rejection, failed, same, -⟩ := reports
  exact ⟨rejection, failed, same⟩

theorem Front.accepted {items : List Item} {segments : List Segment}
    (front : Front limit items segments) (clear : '\x00' ∉ items.flatMap Item.text) :
    ∃ path, (parse (String.ofList (items.flatMap Item.text)) limit).outcome = .ok path := by
  have decomposes : Decomposes (items.flatMap Item.text) items :=
    ⟨rfl, front.wellFormed, front.maximal⟩
  refine ⟨{ segments }, outcome_parse_eq_ok_iff.mpr (read_eq_ok_iff.mpr ?_)⟩
  rw [String.toList_ofList]
  exact ⟨clear, items, decomposes, front.denotes, front.depth⟩

theorem closes_of_accepted (accepted : ∃ path, (parse before limit).outcome = .ok path) :
    ∃ reader segments, before.toList.foldlM (Reader.feed limit) {} = .ok reader ∧
      reader.Closes limit segments ∧ reader.offset = before.length := by
  obtain ⟨path, parsed⟩ := accepted
  obtain ⟨-, reader, run, closes, follows⟩ := closes_of_read (outcome_parse_eq_ok_iff.mp parsed)
  exact ⟨reader, path.segments, run, closes, follows.offset⟩

namespace Reader

variable {reader : Reader} {taken : List Char}

theorem Follows.inIndex {opened : Nat} (follows : Follows limit taken reader)
    (mode : reader.mode = .index opened) (clear : '\x00' ∉ taken) (rest : List Char) :
    ∃ before, InIndex limit (taken ++ rest) before reader.pending.toList rest ∧
      opened = before.length := by
  obtain ⟨-, items, started, rfl, front, isStarted⟩ := follows
  rw [mode] at isStarted
  obtain ⟨atOpening, rfl, digits⟩ := isStarted
  rw [List.mem_append, not_or] at clear
  refine ⟨String.ofList (items.flatMap Item.text), ⟨by simp, front.accepted clear.1, digits⟩, ?_⟩
  simpa using atOpening

theorem Follows.inQuotes (follows : Follows limit taken reader) (mode : reader.mode = .quoted)
    (clear : '\x00' ∉ taken) : ∃ before run inside, InQuotes limit taken before run inside := by
  obtain ⟨-, items, started, rfl, front, isStarted⟩ := follows
  rw [mode] at isStarted
  obtain ⟨-, rfl, run, inside, pending, isRun, unquoted⟩ := isStarted
  rw [List.mem_append, not_or] at clear
  exact ⟨String.ofList (items.flatMap Item.text), run, inside, by simp [pending],
    front.accepted clear.1, isRun, unquoted⟩

end Reader

theorem InIndex.run {digits rest : List Char} {all : List Char}
    (inIndex : InIndex limit all before digits rest) :
    ∃ reader, (before.toList ++ '[' :: digits).foldlM (Reader.feed limit) {} = .ok reader ∧
      reader.mode = .index before.length ∧ reader.pending = String.ofList digits ∧
      reader.offset = before.length + 1 + digits.length := by
  obtain ⟨reader, segments, run, closes, offset⟩ := closes_of_accepted inIndex.accepted
  refine ⟨Reader.pushed { mode := .index reader.offset, segments, offset := reader.offset + 1 }
    digits, ?_, by rw [← offset]; rfl, by simp [Reader.pushed], by simp [Reader.pushed, offset]⟩
  rw [Outcome.foldlM_append_of_ok run, Outcome.foldlM_cons_of_ok closes.feed_opening]
  exact Reader.feed_digits inIndex.areDigits _ rfl

theorem InQuotes.run {run inside : List Char} {all : List Char}
    (inQuotes : InQuotes limit all before run inside) :
    ∃ reader, all.foldlM (Reader.feed limit) {} = .ok reader ∧ reader.mode = .quoted := by
  obtain ⟨reader, segments, read, closes, -⟩ := closes_of_accepted inQuotes.accepted
  have opening : (reader.pushed run).feed limit '"' =
      .ok { (reader.pushed run).pushed ['"'] with mode := .quoted } :=
    Reader.feed_openingQuote closes.mode
  refine ⟨Reader.pushed { (reader.pushed run).pushed ['"'] with mode := .quoted } inside, ?_, rfl⟩
  rw [inQuotes.covers, Outcome.foldlM_append_of_ok read,
    Outcome.foldlM_append_of_ok (Reader.feed_run inQuotes.isRun reader closes.mode),
    Outcome.foldlM_cons_of_ok opening]
  exact Reader.feed_quoted inQuotes.unquoted _ rfl

namespace Reader

variable {reader : Reader} {c : Char}

theorem kind_of_endKey (failed : reader.endKey limit = .error fault) :
    fault.kind = .path ∨ fault.kind = .depth := by
  rcases (endKey_eq_error_iff.mp failed).2 with ⟨cause, -, rfl⟩ | ⟨-, -, rfl⟩
  · exact .inl rfl
  · exact .inr rfl

theorem kind_of_feed (failed : reader.feed limit c = .error fault) :
    fault.kind = .path ∨ fault.kind = .depth ∨
      (fault.kind = .index ∧ ∃ opened, reader.mode = .index opened ∧
        Misplaced reader.pending.toList c) := by
  rcases feed_eq_error_iff.mp failed with
    ⟨-, -, ended⟩ | ⟨opened, mode, ⟨bracket, ended⟩ | ⟨other, noDigit, rfl⟩⟩
  · rcases kind_of_endKey ended with path | depth
    · exact .inl path
    · exact .inr (.inl depth)
  · rcases endIndex_eq_error_iff.mp ended with ⟨empty, rfl⟩ | ⟨long, rfl⟩ | ⟨-, -, -, rfl⟩
    · exact .inr (.inr ⟨rfl, opened, mode, .inr ⟨bracket, .inl (by simp [empty])⟩⟩)
    · exact .inr (.inr ⟨rfl, opened, mode, .inr ⟨bracket, .inr long⟩⟩)
    · exact .inr (.inl rfl)
  · exact .inr (.inr ⟨rfl, opened, mode, .inl ⟨noDigit, other⟩⟩)

theorem kind_of_finish (failed : reader.finish limit = .error fault) :
    fault.kind = .path ∨ fault.kind = .depth ∨
      (fault.kind = .unterminatedQuote ∧ reader.mode = .quoted) ∨
      (fault.kind = .unterminatedIndex ∧ ∃ opened, reader.mode = .index opened) := by
  rcases finish_eq_error_iff.mp failed with ⟨mode, rfl⟩ | ⟨opened, mode, rfl⟩ | ⟨-, ended⟩
  · exact .inr (.inr (.inl ⟨rfl, mode⟩))
  · exact .inr (.inr (.inr ⟨rfl, opened, mode⟩))
  · rcases kind_of_endKey ended with path | depth
    · exact .inl path
    · exact .inr (.inl depth)

end Reader

theorem place_of_raises {kind : RejectionKind} (clear : '\x00' ∉ text.toList)
    (raises : Raises text limit kind) : kind = .path ∨ kind = .depth ∨
      (kind = .index ∧ ∃ before digits c rest,
        InIndex limit text.toList before digits (c :: rest) ∧ Misplaced digits c) ∨
      (kind = .unterminatedQuote ∧
        ∃ before run inside, InQuotes limit text.toList before run inside) ∨
      (kind = .unterminatedIndex ∧
        ∃ before digits, InIndex limit text.toList before digits []) := by
  obtain ⟨fault, failed, rfl⟩ := raises_iff.mp raises
  rcases read_eq_error_iff.mp failed with
    ⟨null, -⟩ | ⟨-, ⟨taken, c, rest, reader, split, run, refused⟩ | ⟨reader, run, refused⟩⟩
  · exact absurd null clear
  · rcases Reader.kind_of_feed refused with path | depth | ⟨index, opened, mode, misplaced⟩
    · exact .inl path
    · exact .inr (.inl depth)
    · have clearTaken : '\x00' ∉ taken := fun null => clear (by rw [split]; simp [null])
      obtain ⟨before, inIndex, -⟩ :=
        (Reader.Follows.of_run run).inIndex mode clearTaken (c :: rest)
      rw [split]
      exact .inr (.inr (.inl ⟨index, before, _, c, rest, inIndex, misplaced⟩))
  · rcases Reader.kind_of_finish refused with path | depth | ⟨quote, mode⟩ | ⟨index, opened, mode⟩
    · exact .inl path
    · exact .inr (.inl depth)
    · exact .inr (.inr (.inr (.inl ⟨quote, (Reader.Follows.of_run run).inQuotes mode clear⟩)))
    · obtain ⟨before, inIndex, -⟩ := (Reader.Follows.of_run run).inIndex mode clear []
      rw [List.append_nil] at inIndex
      exact .inr (.inr (.inr (.inr ⟨index, before, _, inIndex⟩)))

theorem InIndex.reports_unterminated {digits : List Char} (clear : '\x00' ∉ text.toList)
    (inIndex : InIndex limit text.toList before digits []) :
    Reports text limit .unterminatedIndex
      s!"index opened at offset {before.length} is never closed in {Text.quoted text}" := by
  obtain ⟨reader, run, mode, -⟩ := inIndex.run
  have failed : read text limit = .error (.unterminatedIndex before.length) := by
    refine read_eq_error_iff.mpr (.inr ⟨clear, .inr ⟨reader, ?_, ?_⟩⟩)
    · rw [inIndex.covers, List.append_nil, run]
    · exact Reader.finish_eq_error_iff.mpr (.inr (.inl ⟨_, mode, rfl⟩))
  exact reports_of_read failed

theorem InIndex.read_refused {digits rest : List Char} {c : Char} (clear : '\x00' ∉ text.toList)
    (inIndex : InIndex limit text.toList before digits (c :: rest))
    (refused : ∀ reader : Reader, reader.mode = .index before.length →
      reader.pending = String.ofList digits → reader.offset = before.length + 1 + digits.length →
      reader.feed limit c = .error fault) :
    read text limit = .error fault := by
  obtain ⟨reader, run, mode, pending, offset⟩ := inIndex.run
  refine read_eq_error_iff.mpr (.inr ⟨clear, .inl ⟨before.toList ++ '[' :: digits, c, rest, reader,
    ?_, run, refused reader mode pending offset⟩⟩)
  simpa using inIndex.covers

theorem InIndex.reports_stray {digits rest : List Char} {c : Char} (clear : '\x00' ∉ text.toList)
    (inIndex : InIndex limit text.toList before digits (c :: rest)) (noDigit : c.isDigit = false)
    (other : c ≠ ']') :
    Reports text limit .index
      (s!"unexpected {Text.quoted c.toString} at offset {before.length + 1 + digits.length} " ++
        s!"inside index in {Text.quoted text}") := by
  have failed :
      read text limit = .error (.strayInIndex c (before.length + 1 + digits.length)) := by
    refine inIndex.read_refused clear fun reader mode _ offset => ?_
    rw [← offset]
    exact Reader.feed_eq_error_iff.mpr (.inr ⟨_, mode, .inr ⟨other, noDigit, rfl⟩⟩)
  exact reports_of_read failed

theorem InIndex.reports_empty {rest : List Char} (clear : '\x00' ∉ text.toList)
    (inIndex : InIndex limit text.toList before [] (']' :: rest)) :
    Reports text limit .index
      s!"empty index at offset {before.length} in {Text.quoted text}" := by
  have failed : read text limit = .error (.emptyIndex before.length) := by
    refine inIndex.read_refused clear fun reader mode pending _ => ?_
    refine Reader.feed_eq_error_iff.mpr (.inr ⟨_, mode, .inl ⟨rfl, ?_⟩⟩)
    exact Reader.endIndex_eq_error_iff.mpr (.inl ⟨pending, rfl⟩)
  exact reports_of_read failed

theorem InIndex.reports_long {digits rest : List Char} (clear : '\x00' ∉ text.toList)
    (inIndex : InIndex limit text.toList before digits (']' :: rest)) (long : 18 < digits.length) :
    Reports text limit .index
      s!"index of {digits.length} digits in {Text.quoted text} exceeds {maxIndexDigits}" := by
  have failed : read text limit = .error (.longIndex digits.length) := by
    refine inIndex.read_refused clear fun reader mode pending _ => ?_
    have size : reader.pending.length = digits.length := by rw [pending]; simp
    rw [← size] at long ⊢
    refine Reader.feed_eq_error_iff.mpr (.inr ⟨_, mode, .inl ⟨rfl, ?_⟩⟩)
    exact Reader.endIndex_eq_error_iff.mpr (.inr (.inl ⟨long, rfl⟩))
  exact reports_of_read failed

theorem InQuotes.raises {run inside : List Char} (clear : '\x00' ∉ text.toList)
    (inQuotes : InQuotes limit text.toList before run inside) :
    Raises text limit .unterminatedQuote := by
  obtain ⟨reader, run, mode⟩ := inQuotes.run
  have finished : reader.finish limit = .error .unterminatedQuote :=
    Reader.finish_eq_error_iff.mpr (.inl ⟨mode, rfl⟩)
  exact raises_iff.mpr
    ⟨_, read_eq_error_iff.mpr (.inr ⟨clear, .inr ⟨reader, run, finished⟩⟩), rfl⟩

end

/-- Faults in an index and in quotes are told apart by what stands before them, and those in an
index name their place. -/
theorem parse_places_faults {text : String} (clear : '\x00' ∉ text.toList) (limit : Int) :
    (Raises text limit .unterminatedIndex ↔
      ∃ before digits, InIndex limit text.toList before digits []) ∧
    (∀ before digits, InIndex limit text.toList before digits [] →
      Reports text limit .unterminatedIndex
        s!"index opened at offset {before.length} is never closed in {Text.quoted text}") ∧
    (Raises text limit .index ↔ ∃ before digits c rest,
      InIndex limit text.toList before digits (c :: rest) ∧
        (c.isDigit = false ∧ c ≠ ']' ∨ c = ']' ∧ (digits = [] ∨ 18 < digits.length))) ∧
    (∀ before digits c rest, InIndex limit text.toList before digits (c :: rest) →
      (c.isDigit = false → c ≠ ']' → Reports text limit .index
        (s!"unexpected {Text.quoted c.toString} at offset {before.length + 1 + digits.length} " ++
          s!"inside index in {Text.quoted text}")) ∧
      (c = ']' → digits = [] → Reports text limit .index
        s!"empty index at offset {before.length} in {Text.quoted text}") ∧
      (c = ']' → 18 < digits.length → Reports text limit .index
        s!"index of {digits.length} digits in {Text.quoted text} exceeds {maxIndexDigits}")) ∧
    (Raises text limit .unterminatedQuote ↔
      ∃ before run inside, InQuotes limit text.toList before run inside) := by
  refine ⟨⟨?_, ?_⟩, fun before digits inIndex => inIndex.reports_unterminated clear, ⟨?_, ?_⟩, ?_,
    ⟨?_, ?_⟩⟩
  · intro raises
    simpa using place_of_raises clear raises
  · rintro ⟨before, digits, inIndex⟩
    exact (inIndex.reports_unterminated clear).raises
  · intro raises
    simpa [Misplaced] using place_of_raises clear raises
  · rintro ⟨before, digits, c, rest, inIndex, ⟨noDigit, other⟩ | ⟨rfl, rfl | long⟩⟩
    · exact (inIndex.reports_stray clear noDigit other).raises
    · exact (inIndex.reports_empty clear).raises
    · exact (inIndex.reports_long clear long).raises
  · intro before digits c rest inIndex
    refine ⟨inIndex.reports_stray clear, ?_, ?_⟩
    · rintro rfl rfl
      exact inIndex.reports_empty clear
    · rintro rfl long
      exact inIndex.reports_long clear long
  · intro raises
    simpa using place_of_raises clear raises
  · rintro ⟨before, run, inside, inQuotes⟩
    exact inQuotes.raises clear

theorem inIndex_strayLetter : InIndex 2 "a.b[12x]".toList "a.b" ['1', '2'] ['x', ']'] where
  covers := by decide
  accepted := ⟨{ segments := [.key ⟨"a", by decide⟩, .key ⟨"b", by decide⟩] }, by rfl⟩
  areDigits := by simp

theorem parse_places_faults_strayLetter :
    '\x00' ∉ "a.b[12x]".toList ∧ Reports "a.b[12x]" 2 .index
      "unexpected 'x' at offset 6 inside index in 'a.b[12x]'" := by
  have clear : '\x00' ∉ "a.b[12x]".toList := by decide
  obtain ⟨-, -, -, misplaced, -⟩ := parse_places_faults clear 2
  obtain ⟨rejection, failed, kind, details⟩ :=
    (misplaced _ _ _ _ inIndex_strayLetter).1 (by decide) (by decide)
  exact ⟨clear, rejection, failed, kind, details.trans (by decide +kernel)⟩

end JsonColumn.Path
