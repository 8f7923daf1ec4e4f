import JsonColumn.Proofs.Path.ReaderState

/-!
Reading against the grammar. A row of items whose runs are keys is read to its end, up to the depth
that is allowed, and what is read to its end is such a row.
-/

namespace JsonColumn.Path

namespace Reader

variable {limit : Int} {segments : List Segment}

def pushed (reader : Reader) (text : List Char) : Reader :=
  { reader with
    pending := reader.pending ++ String.ofList text
    offset := reader.offset + text.length }

theorem pushed_nil (reader : Reader) : reader.pushed [] = reader := by
  simp [pushed]

theorem pushed_pushed (reader : Reader) (first second : List Char) :
    (reader.pushed first).pushed second = reader.pushed (first ++ second) := by
  simp [pushed, String.append_assoc, Nat.add_assoc]

theorem feed_of_take {reader : Reader} {c : Char} {mode : Mode}
    (taken : reader.take limit c = .ok { reader with pending := reader.pending.push c, mode }) :
    reader.feed limit c = .ok { reader.pushed [c] with mode } := by
  simp [feed, taken, bind, Except.bind, pushed]

theorem foldlM_pushed {text : List Char} {mode : Mode}
    (kept : ∀ c ∈ text, ∀ reader : Reader, reader.mode = mode →
      reader.take limit c = .ok { reader with pending := reader.pending.push c })
    (reader : Reader) (current : reader.mode = mode) :
    text.foldlM (feed limit) reader = .ok (reader.pushed text) := by
  induction text generalizing reader with
  | nil => rw [pushed_nil]; rfl
  | cons c text ih =>
      rw [List.forall_mem_cons] at kept
      have step : reader.feed limit c = .ok (reader.pushed [c]) :=
        feed_of_take (kept.1 reader current)
      rw [Outcome.foldlM_cons_of_ok step, ih kept.2 (reader.pushed [c]) current, pushed_pushed,
        List.singleton_append]

theorem feed_digits {digits : List Char} (areDigits : ∀ c ∈ digits, c.isDigit = true)
    (reader : Reader) {opened : Nat} (mode : reader.mode = .index opened) :
    digits.foldlM (feed limit) reader = .ok (reader.pushed digits) := by
  refine foldlM_pushed (fun c member reader mode => ?_) reader mode
  have digit := areDigits c member
  have inside : ¬c = ']' := by
    rintro rfl
    simp at digit
  simp [take, mode, digit, inside]

theorem feed_quoted {content : List Char} (unquoted : '"' ∉ content) (reader : Reader)
    (mode : reader.mode = .quoted) :
    content.foldlM (feed limit) reader = .ok (reader.pushed content) := by
  refine foldlM_pushed (fun c member reader mode => ?_) reader mode
  have inside : ¬c = '"' := by
    rintro rfl
    exact unquoted member
  simp [take, mode, inside]

theorem feed_openingQuote {reader : Reader} (mode : reader.mode = .plain) :
    reader.feed limit '"' = .ok { reader.pushed ['"'] with mode := .quoted } :=
  feed_of_take (by simp [take, mode])

theorem feed_closingQuote {reader : Reader} (mode : reader.mode = .quoted) :
    reader.feed limit '"' = .ok { reader.pushed ['"'] with mode := .plain } :=
  feed_of_take (by simp [take, mode])

theorem feed_bare {reader : Reader} {c : Char} (mode : reader.mode = .plain)
    (unquoted : c ≠ '"') (allowed : c ∉ Item.stops) :
    reader.feed limit c = .ok (reader.pushed [c]) := by
  refine feed_of_take ?_
  simp only [Item.stops, List.mem_cons, List.not_mem_nil, or_false, not_or] at allowed
  simp [take, mode, unquoted, allowed]

theorem feed_block {content : List Char} (unquoted : '"' ∉ content) (reader : Reader)
    (mode : reader.mode = .plain) :
    ('"' :: (content ++ ['"'])).foldlM (feed limit) reader =
      .ok (reader.pushed ('"' :: (content ++ ['"']))) := by
  rw [Outcome.foldlM_cons_of_ok (feed_openingQuote mode),
    Outcome.foldlM_append_of_ok (feed_quoted unquoted _ rfl),
    Outcome.foldlM_cons_of_ok (feed_closingQuote rfl), pushed_pushed]
  simp [pushed, mode, String.append_assoc, Nat.add_assoc, Nat.add_comm, pure, Except.pure]

theorem feed_run {run : List Char} (isRun : Item.IsRun run) (reader : Reader)
    (mode : reader.mode = .plain) :
    run.foldlM (feed limit) reader = .ok (reader.pushed run) := by
  induction isRun generalizing reader with
  | nil => rw [pushed_nil]; rfl
  | @bare c run unquoted allowed _ ih =>
      rw [Outcome.foldlM_cons_of_ok (feed_bare mode unquoted allowed),
        ih (reader.pushed [c]) mode, pushed_pushed, List.singleton_append]
  | @quoted content run unquoted _ _ ih =>
      have block : '"' :: (content ++ '"' :: run) = '"' :: (content ++ ['"']) ++ run := by simp
      rw [block, Outcome.foldlM_append_of_ok (feed_block unquoted reader mode),
        ih (reader.pushed _) mode, pushed_pushed]

/-- A text that ends where the reader is has these segments. -/
structure Closes (limit : Int) (reader : Reader) (segments : List Segment) : Prop where
  mode : reader.mode = .plain
  closed : reader.endKey limit = .ok { segments, offset := reader.offset }

namespace Closes

variable {reader : Reader}

theorem between (limit : Int) (segments : List Segment) (offset : Nat) :
    Closes limit { segments, offset } segments :=
  ⟨rfl, rfl⟩

theorem eq_between (closes : Closes limit reader segments) (empty : reader.pending = "") :
    reader = { segments, offset := reader.offset } := by
  rcases endKey_eq_ok_iff.mp closes.closed with ⟨-, same⟩ | ⟨key, name, named, -⟩
  · exact same.symm
  · exact absurd (name.trans empty) named

theorem of_endKey {ended : Reader} (mode : reader.mode = .plain)
    (closed : reader.endKey limit = .ok ended) : Closes limit reader ended.segments := by
  refine ⟨mode, closed.trans (congrArg _ ?_)⟩
  rcases endKey_eq_ok_iff.mp closed with ⟨empty, rfl⟩ | ⟨key, -, -, -, rfl⟩
  · obtain ⟨mode, pending, segments, offset⟩ := ended
    cases mode
    cases empty
    rfl
  · simp [mode]

theorem finish_iff {path : Path} :
    reader.finish limit = .ok path ↔ Closes limit reader path.segments := by
  constructor
  · intro finished
    unfold Reader.finish at finished
    split at finished
    · cases finished
    · cases finished
    · rename_i mode
      obtain ⟨ended, closed, finished⟩ := Outcome.bind_eq_ok_iff.mp finished
      cases finished
      exact of_endKey mode closed
  · intro closes
    simp [Reader.finish, closes.mode, closes.closed, bind, Except.bind]

theorem feed_separator (closes : Closes limit reader segments) {c : Char}
    (separator : c = '.' ∨ c = '$') :
    reader.feed limit c = .ok { segments, offset := reader.offset + 1 } := by
  have bare : ¬c = '"' := by
    rcases separator with rfl | rfl
    · decide
    · decide
  simp [feed, take, closes.mode, bare, separator, closes.closed, bind, Except.bind]

theorem feed_opening (closes : Closes limit reader segments) :
    reader.feed limit '[' =
      .ok { mode := .index reader.offset, segments, offset := reader.offset + 1 } := by
  simp [feed, take, closes.mode, closes.closed, bind, Except.bind]

theorem feed_opened {opened : Reader} {position : Nat} (mode : opened.mode = .index position)
    (empty : opened.pending = "") {digits : List Char} (wellFormed : (Item.index digits).WellFormed)
    (room : opened.segments.length < limit) :
    (digits ++ [']']).foldlM (feed limit) opened =
      .ok { segments := opened.segments ++ [.index (Item.decimal digits)]
            offset := opened.offset + digits.length + 1 } := by
  obtain ⟨areDigits, some, short⟩ := wellFormed
  have pending : (opened.pushed digits).pending = String.ofList digits := by simp [pushed, empty]
  have filled : (opened.pushed digits).pending ≠ "" := by
    simpa [pending] using List.length_pos_iff.mp some
  have closed : (opened.pushed digits).endIndex limit position = .ok { opened.pushed digits with
      mode := .plain
      pending := ""
      segments := opened.segments ++ [.index (Item.decimal digits)] } := by
    refine endIndex_eq_ok_iff.mpr ⟨filled, by simpa [pending] using short, room, ?_⟩
    rw [pending, String.toList_ofList]
    rfl
  have step : (opened.pushed digits).feed limit ']' = .ok
      { segments := opened.segments ++ [.index (Item.decimal digits)]
        offset := opened.offset + digits.length + 1 } := by
    have current : (opened.pushed digits).mode = .index position := mode
    simp only [feed, take, current, if_true, closed]
    rfl
  rw [Outcome.foldlM_append_of_ok (feed_digits areDigits opened mode),
    Outcome.foldlM_cons_of_ok step]
  rfl

theorem feed_index (closes : Closes limit reader segments) {digits : List Char}
    (wellFormed : (Item.index digits).WellFormed) (room : segments.length < limit) :
    (Item.index digits).text.foldlM (feed limit) reader =
      .ok { segments := segments ++ [.index (Item.decimal digits)]
            offset := reader.offset + 1 + digits.length + 1 } := by
  rw [Item.text, Outcome.foldlM_cons_of_ok closes.feed_opening]
  exact feed_opened rfl rfl wellFormed room

theorem pushed_key (key : Key) (named : key.name ≠ "") (room : segments.length < limit)
    (offset : Nat) : Closes limit (Reader.pushed { segments, offset } key.name.toList)
      (segments ++ [.key key]) :=
  ⟨rfl, endKey_eq_ok_iff.mpr (.inr ⟨key, by simp [pushed], named, room, rfl⟩)⟩

theorem front_of_follows {text : List Char} (closes : Closes limit reader segments)
    (follows : Follows limit text reader) :
    ∃ items, items.flatMap Item.text = text ∧ Front limit items segments := by
  obtain ⟨-, items, pending, rfl, front, started⟩ := follows
  rw [closes.mode] at started
  obtain ⟨ready, isRun, rfl⟩ := started
  obtain ⟨more, moreFront, covers, -⟩ := endKey_front front ready isRun closes.closed
  exact ⟨more, covers, moreFront⟩

theorem feed_items {items : List Item} {more : List Segment}
    (denotes : Denotes items more) (wellFormed : ∀ item ∈ items, item.WellFormed)
    (maximal : items.IsChain fun first second => ¬(first.isKey ∧ second.isKey))
    (earlier : Closes limit reader segments)
    (apart : reader.pending ≠ "" → ∀ item ∈ items.head?, ¬item.isKey)
    (depth : (segments ++ more).length ≤ limit.toNat) :
    ∃ final, (items.flatMap Item.text).foldlM (feed limit) reader = .ok final ∧
      Closes limit final (segments ++ more) := by
  -- A run that was read is still pending when the next item comes, so what is known of the reader
  -- is what it closes to, and not what it has.
  induction denotes generalizing reader segments with
  | nil => exact ⟨reader, rfl, by simpa using earlier⟩
  | separator c _ ih =>
      rw [List.forall_mem_cons] at wellFormed
      obtain ⟨final, run, closes⟩ := ih wellFormed.2 maximal.tail
        (.between limit segments (reader.offset + 1)) (by simp) depth
      refine ⟨final, ?_, closes⟩
      rw [List.flatMap_cons, Item.text, List.singleton_append,
        Outcome.foldlM_cons_of_ok (earlier.feed_separator wellFormed.1), run]
  | index digits _ ih =>
      rw [List.forall_mem_cons] at wellFormed
      rw [List.append_cons] at depth ⊢
      have room : segments.length < limit :=
        length_concat_le.mp ((List.sublist_append_left _ _).length_le.trans depth)
      obtain ⟨final, run, closes⟩ := ih wellFormed.2 maximal.tail (.between limit _ _)
        (by simp) depth
      refine ⟨final, ?_, closes⟩
      rw [List.flatMap_cons, Outcome.foldlM_append_of_ok (earlier.feed_index wellFormed.1 room),
        run]
  | @key items _ key _ ih =>
      rw [List.forall_mem_cons] at wellFormed
      rw [List.append_cons] at depth ⊢
      have room : segments.length < limit :=
        length_concat_le.mp ((List.sublist_append_left _ _).length_le.trans depth)
      have empty : reader.pending = "" := by
        by_contra filled
        exact apart filled _ rfl rfl
      have named : key.name ≠ "" := by simpa using wellFormed.1.1
      rw [earlier.eq_between empty]
      have nextApart : ∀ item ∈ items.head?, ¬item.isKey := fun item member isKey =>
        (List.isChain_cons.mp maximal).1 item member ⟨rfl, isKey⟩
      obtain ⟨final, run, closes⟩ := ih wellFormed.2 maximal.tail
        (pushed_key key named room reader.offset) (fun _ => nextApart) depth
      refine ⟨final, ?_, closes⟩
      rw [List.flatMap_cons, Item.text,
        Outcome.foldlM_append_of_ok (feed_run wellFormed.1.2 _ rfl), run]

end Closes

end Reader

theorem closes_of_read {text : String} {limit : Int} {path : Path}
    (success : read text limit = .ok path) : '\x00' ∉ text.toList ∧
      ∃ reader, text.toList.foldlM (Reader.feed limit) {} = .ok reader ∧
        reader.Closes limit path.segments ∧ reader.Follows limit text.toList := by
  unfold read at success
  split at success
  · cases success
  · rename_i clear
    obtain ⟨reader, run, finished⟩ := Outcome.bind_eq_ok_iff.mp success
    exact ⟨clear, reader, run, Reader.Closes.finish_iff.mp finished, .of_run run⟩

theorem read_eq_ok_iff {text : String} {limit : Int} {path : Path} :
    read text limit = .ok path ↔ '\x00' ∉ text.toList ∧
      ∃ items, Decomposes text.toList items ∧ Denotes items path.segments ∧
        path.length ≤ limit.toNat := by
  constructor
  · intro success
    obtain ⟨clear, reader, -, closes, follows⟩ := closes_of_read success
    obtain ⟨items, covers, front⟩ := closes.front_of_follows follows
    exact ⟨clear, items, ⟨covers, front.wellFormed, front.maximal⟩, front.denotes, front.depth⟩
  · rintro ⟨clear, items, decomposes, denotes, depth⟩
    obtain ⟨final, run, closes⟩ := Reader.Closes.feed_items denotes decomposes.wellFormed
      decomposes.maximal (.between limit [] 0) (by simp) depth
    rw [decomposes.covers] at run
    rw [read, if_neg clear]
    exact Outcome.bind_eq_ok_iff.mpr ⟨final, run, Reader.Closes.finish_iff.mpr closes⟩

theorem outcome_parse_eq_ok_iff {text : String} {limit : Int} {path : Path} :
    (parse text limit).outcome = .ok path ↔ read text limit = .ok path := by
  unfold parse
  split
  · rename_i fault found
    simp [found]
  · rename_i accepted found
    rw [found]
    change (Except.ok accepted : Except Fault Path) = .ok path ↔ _
    simp

/-- A text is accepted just when it is a row of items, its runs are keys and it is not too deep. -/
theorem parse_accepts_grammar (text : String) (limit : Nat) :
    (∀ path, (parse text limit).outcome = .ok path ↔ '\x00' ∉ text.toList ∧
      ∃ items, Decomposes text.toList items ∧ items.countP Item.isSegment ≤ limit ∧
        Denotes items path.segments) ∧
    ∀ first second, Decomposes text.toList first → Decomposes text.toList second →
      first = second := by
  refine ⟨fun path => ?_, fun first second => Decomposes.unique⟩
  rw [outcome_parse_eq_ok_iff, read_eq_ok_iff]
  refine and_congr_right fun _ => exists_congr fun items => and_congr_right fun _ => ?_
  constructor
  · rintro ⟨denotes, depth⟩
    exact ⟨denotes.length_eq ▸ depth, denotes⟩
  · rintro ⟨depth, denotes⟩
    exact ⟨denotes, by rw [length, denotes.length_eq]; exact depth⟩

def quotedKey : Key :=
  ⟨"\"a.b\"x]", by decide +kernel⟩

def quotedItems : List Item :=
  [.separator '$', .separator '.', .key quotedKey.name.toList, .index ['0', '0', '7']]

theorem decomposes_quotedItems : Decomposes "$.\"a.b\"x][007]".toList quotedItems where
  covers := by decide
  wellFormed := by
    have isRun : Item.IsRun quotedKey.name.toList :=
      @Text.Paired.quoted _ _ ['a', '.', 'b'] ['x', ']'] (by decide) trivial
        (.bare (by decide) (by decide) (.bare (by decide) (by decide) .nil))
    simp only [quotedItems, List.forall_mem_cons]
    exact ⟨.inr rfl, .inl rfl, ⟨by decide, isRun⟩, ⟨by simp, by decide, by decide⟩, by simp⟩
  maximal := by simp [quotedItems, Item.isKey]

theorem parse_accepts_grammar_quotedItems :
    (parse "$.\"a.b\"x][007]" 2).outcome = .ok { segments := [.key quotedKey, .index 7] } ∧
      ∃! items, Decomposes "$.\"a.b\"x][007]".toList items := by
  have accepted := parse_accepts_grammar "$.\"a.b\"x][007]" 2
  constructor
  · refine (accepted.1 _).mpr ⟨by decide, quotedItems, decomposes_quotedItems, by decide, ?_⟩
    exact .separator '$' (.separator '.' (.key quotedKey (.index ['0', '0', '7'] .nil)))
  · exact ⟨quotedItems, decomposes_quotedItems,
      fun items other => accepted.2 items quotedItems other decomposes_quotedItems⟩

end JsonColumn.Path
