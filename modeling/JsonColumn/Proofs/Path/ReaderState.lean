import JsonColumn.Path.Reader
import JsonColumn.Proofs.Outcome
import JsonColumn.Proofs.Path.Items

/-!
What a reader has behind it: a row of items that are complete, with their segments, and the start of
one more. Every character that it takes keeps this.
-/

namespace JsonColumn.Path

theorem readIndex_eq_ok_iff {digits : String} {position : Nat} :
    readIndex digits = .ok position ↔
      digits.length ≤ 18 ∧ Item.decimal digits.toList = position := by
  unfold readIndex maxIndexDigits
  by_cases long : digits.length > 18
  · rw [if_pos long]
    simp only [reduceCtorEq, false_iff, not_and]
    omega
  · rw [if_neg long, Item.ofDigitChars_eq_decimal, Except.ok.injEq]
    constructor
    · intro value
      exact ⟨by omega, value⟩
    · intro fits
      exact fits.2

namespace Reader

variable {limit : Int} {reader next ended : Reader}

theorem complete_eq_ok_iff {segment : Segment} :
    reader.complete limit segment = .ok next ↔ reader.segments.length < limit ∧
      next = { reader with pending := "", segments := reader.segments ++ [segment] } := by
  unfold complete
  split
  · simp only [reduceCtorEq, false_iff, not_and]
    omega
  · simp only [Except.ok.injEq]
    constructor
    · rintro rfl
      exact ⟨by omega, rfl⟩
    · rintro ⟨-, rfl⟩
      rfl

theorem endKey_eq_ok_iff : reader.endKey limit = .ok ended ↔
    (reader.pending = "" ∧ ended = reader) ∨
    ∃ key : Key, key.name = reader.pending ∧ key.name ≠ "" ∧ reader.segments.length < limit ∧
      ended = { reader with pending := "", segments := reader.segments ++ [.key key] } := by
  unfold endKey
  split
  · rename_i empty
    constructor
    · intro same
      cases same
      exact .inl ⟨empty, rfl⟩
    · rintro (⟨-, rfl⟩ | ⟨key, name, named, -⟩)
      · rfl
      · exact absurd (name.trans empty) named
  · rename_i filled
    constructor
    · intro closed
      obtain ⟨key, accepted, closed⟩ := Outcome.bind_eq_ok_iff.mp closed
      have name := (Key.ofText_eq_ok_iff _ _).mp accepted
      obtain ⟨room, rfl⟩ := complete_eq_ok_iff.mp closed
      exact .inr ⟨key, name, by rwa [name], room, rfl⟩
    · rintro (⟨empty, -⟩ | ⟨key, name, -, room, rfl⟩)
      · exact absurd empty filled
      · exact Outcome.bind_eq_ok_iff.mpr
          ⟨key, (Key.ofText_eq_ok_iff _ _).mpr name, complete_eq_ok_iff.mpr ⟨room, rfl⟩⟩

theorem endIndex_eq_ok_iff {opened : Nat} : reader.endIndex limit opened = .ok next ↔
    reader.pending ≠ "" ∧ reader.pending.length ≤ 18 ∧ reader.segments.length < limit ∧
      next = { reader with
        mode := .plain
        pending := ""
        segments := reader.segments ++ [.index (Item.decimal reader.pending.toList)] } := by
  unfold endIndex
  split
  · rename_i empty
    simp [empty]
  · rename_i filled
    constructor
    · intro closed
      obtain ⟨position, value, closed⟩ := Outcome.bind_eq_ok_iff.mp closed
      obtain ⟨completed, complete, closed⟩ := Outcome.bind_eq_ok_iff.mp closed
      obtain ⟨room, rfl⟩ := complete_eq_ok_iff.mp complete
      obtain ⟨short, rfl⟩ := readIndex_eq_ok_iff.mp value
      cases closed
      exact ⟨filled, short, room, rfl⟩
    · rintro ⟨-, short, room, rfl⟩
      refine Outcome.bind_eq_ok_iff.mpr ⟨_, readIndex_eq_ok_iff.mpr ⟨short, rfl⟩, ?_⟩
      exact Outcome.bind_eq_ok_iff.mpr ⟨_, complete_eq_ok_iff.mpr ⟨room, rfl⟩, rfl⟩

end Reader

theorem length_concat_le {limit : Int} {segments : List Segment} {segment : Segment} :
    (segments ++ [segment]).length ≤ limit.toNat ↔ segments.length < limit := by
  rw [List.length_append, List.length_singleton]
  omega

structure Front (limit : Int) (items : List Item) (segments : List Segment) : Prop where
  wellFormed : ∀ item ∈ items, item.WellFormed
  maximal : items.IsChain fun first second => ¬(first.isKey ∧ second.isKey)
  denotes : Denotes items segments
  depth : segments.length ≤ limit.toNat

def Ready (items : List Item) : Prop :=
  ∀ item ∈ items.getLast?, ¬item.isKey

namespace Front

variable {limit : Int} {items : List Item} {segments : List Segment}

theorem nil (limit : Int) : Front limit [] [] where
  wellFormed := by simp
  maximal := .nil
  denotes := .nil
  depth := by simp

theorem concat (front : Front limit items segments) (item : Item) {more : List Segment}
    (wellFormed : item.WellFormed) (follows : item.isKey → Ready items)
    (denotes : Denotes [item] more) (depth : (segments ++ more).length ≤ limit.toNat) :
    Front limit (items ++ [item]) (segments ++ more) where
  wellFormed := by simpa [or_imp, forall_and] using ⟨front.wellFormed, wellFormed⟩
  maximal := by
    refine List.isChain_append.mpr ⟨front.maximal, by simp, ?_⟩
    intro last member first firstMember keys
    cases (Option.some.inj firstMember : item = first)
    exact follows keys.2 last member keys.1
  denotes := front.denotes.append denotes
  depth := depth

theorem separator (front : Front limit items segments) {c : Char} (stop : c = '.' ∨ c = '$') :
    Front limit (items ++ [.separator c]) segments := by
  simpa using front.concat (.separator c) stop (by simp [Item.isKey]) (.separator c .nil)
    (by simpa using front.depth)

end Front

theorem ready_concat (items : List Item) {item : Item} (other : ¬item.isKey) :
    Ready (items ++ [item]) := by
  simpa [Ready] using other

namespace Reader

variable {limit : Int} {items : List Item} {segments : List Segment}

def Started (items : List Item) (pending text : List Char) : Mode → Prop
  | .plain => Ready items ∧ Item.IsRun pending ∧ text = pending
  | .quoted => Ready items ∧ text = pending ∧
      ∃ run inside, pending = run ++ '"' :: inside ∧ Item.IsRun run ∧ '"' ∉ inside
  | .index opened => opened = (items.flatMap Item.text).length ∧ text = '[' :: pending ∧
      ∀ c ∈ pending, c.isDigit = true

/-- What a reader has behind it: complete items, and the start of one more. -/
def Holds (limit : Int) (taken : List Char) (reader : Reader) : Prop :=
  ∃ items text, taken = items.flatMap Item.text ++ text ∧
    Front limit items reader.segments ∧ Started items reader.pending.toList text reader.mode

theorem endKey_front {reader ended : Reader} (front : Front limit items reader.segments)
    (ready : Ready items) (isRun : Item.IsRun reader.pending.toList)
    (closed : reader.endKey limit = .ok ended) :
    ∃ more, Front limit more ended.segments ∧
      more.flatMap Item.text = items.flatMap Item.text ++ reader.pending.toList ∧
      ended = { reader with pending := "", segments := ended.segments } := by
  rcases endKey_eq_ok_iff.mp closed with ⟨empty, rfl⟩ | ⟨key, name, named, room, rfl⟩
  · exact ⟨items, front, by simp [empty], by rw [← empty]⟩
  · rw [← name] at isRun ⊢
    refine ⟨items ++ [.key key.name.toList], ?_, by simp [Item.text], rfl⟩
    exact front.concat _ ⟨by simpa using named, isRun⟩ (fun _ => ready) (.key key .nil)
      (length_concat_le.mpr room)

theorem endIndex_front {reader next : Reader} {opened : Nat}
    (front : Front limit items reader.segments)
    (digits : ∀ c ∈ reader.pending.toList, c.isDigit = true)
    (closed : reader.endIndex limit opened = .ok next) :
    Front limit (items ++ [.index reader.pending.toList]) next.segments ∧
      next.mode = .plain ∧ next.pending = "" := by
  obtain ⟨filled, short, room, rfl⟩ := endIndex_eq_ok_iff.mp closed
  have some : 1 ≤ reader.pending.toList.length := by
    rw [Nat.one_le_iff_ne_zero, Ne, List.length_eq_zero_iff]
    simpa using filled
  exact ⟨front.concat _ ⟨digits, some, short⟩ (by simp [Item.isKey]) (.index _ .nil)
    (length_concat_le.mpr room), rfl, rfl⟩

theorem Holds.take_plain {reader next : Reader} {c : Char} (mode : reader.mode = .plain)
    (front : Front limit items reader.segments) (ready : Ready items)
    (isRun : Item.IsRun reader.pending.toList)
    (offset : reader.offset = (items.flatMap Item.text ++ reader.pending.toList).length)
    (taken : reader.take limit c = .ok next) :
    Holds limit (items.flatMap Item.text ++ reader.pending.toList ++ [c]) next := by
  simp only [take, mode] at taken
  split at taken
  · rename_i quote
    subst quote
    cases taken
    exact ⟨items, reader.pending.toList ++ ['"'], by simp, front, ready, by simp,
      reader.pending.toList, [], by simp, isRun, by simp⟩
  split at taken
  · rename_i separator
    obtain ⟨more, moreFront, covers, shape⟩ := endKey_front front ready isRun taken
    refine ⟨more ++ [.separator c], [], by simp [covers, Item.text],
      moreFront.separator separator, ?_⟩
    rw [shape, mode]
    exact ⟨ready_concat more (by simp [Item.isKey]), .nil, rfl⟩
  split at taken
  · rename_i bracket
    subst bracket
    obtain ⟨ended, closed, taken⟩ := Outcome.bind_eq_ok_iff.mp taken
    cases taken
    obtain ⟨more, moreFront, covers, shape⟩ := endKey_front front ready isRun closed
    refine ⟨more, ['['], by simp [covers], moreFront, by rw [offset, covers], ?_, ?_⟩
    · rw [shape]
      rfl
    · rw [shape]
      simp
  · rename_i quote separator bracket
    cases taken
    have allowed : c ∉ Item.stops := by
      simp only [Item.stops, List.mem_cons, List.not_mem_nil, or_false]
      tauto
    have longer : Item.IsRun (reader.pending.toList ++ [c]) :=
      isRun.append (.bare quote allowed .nil)
    exact ⟨items, reader.pending.toList ++ [c], by simp, front, ready, by simpa using longer,
      by simp⟩

theorem Holds.take_quoted {reader next : Reader} {c : Char} {text : List Char}
    (mode : reader.mode = .quoted) (front : Front limit items reader.segments)
    (started : Started items reader.pending.toList text .quoted)
    (taken : reader.take limit c = .ok next) :
    Holds limit (items.flatMap Item.text ++ text ++ [c]) next := by
  obtain ⟨ready, rfl, run, inside, pending, isRun, unquoted⟩ := started
  simp only [take, mode] at taken
  cases taken
  refine ⟨items, reader.pending.toList ++ [c], by simp, front, ?_⟩
  by_cases quote : c = '"'
  · subst quote
    refine ⟨ready, ?_, by simp⟩
    have closed : Item.IsRun (run ++ '"' :: (inside ++ ['"'])) :=
      isRun.append (.quoted unquoted trivial .nil)
    simpa [pending] using closed
  · rw [if_neg quote]
    refine ⟨ready, by simp, run, inside ++ [c], by simp [pending], isRun, ?_⟩
    simpa [unquoted, eq_comm] using quote

theorem Holds.take_index {reader next : Reader} {c : Char} {text : List Char} {opened : Nat}
    (mode : reader.mode = .index opened) (front : Front limit items reader.segments)
    (started : Started items reader.pending.toList text (.index opened))
    (taken : reader.take limit c = .ok next) :
    Holds limit (items.flatMap Item.text ++ text ++ [c]) next := by
  obtain ⟨atOpening, rfl, digits⟩ := started
  simp only [take, mode] at taken
  split at taken
  · rename_i bracket
    subst bracket
    obtain ⟨nextFront, plain, empty⟩ := endIndex_front front digits taken
    refine ⟨_, [], by simp [Item.text], nextFront, ?_⟩
    rw [plain, empty]
    exact ⟨ready_concat items (by simp [Item.isKey]), .nil, rfl⟩
  split at taken
  · rename_i digit
    cases taken
    refine ⟨items, '[' :: (reader.pending.toList ++ [c]), by simp, front, atOpening, by simp, ?_⟩
    simpa [or_imp, forall_and] using ⟨digits, digit⟩
  · cases taken

structure Follows (limit : Int) (taken : List Char) (reader : Reader) : Prop where
  offset : reader.offset = taken.length
  holds : Holds limit taken reader

theorem Follows.start (limit : Int) : Follows limit [] {} :=
  ⟨rfl, [], [], rfl, .nil limit, by simp [Ready], .nil, rfl⟩

theorem Follows.feed {taken : List Char} {reader next : Reader} {c : Char}
    (follows : Follows limit taken reader) (fed : reader.feed limit c = .ok next) :
    Follows limit (taken ++ [c]) next := by
  obtain ⟨offset, items, text, rfl, front, started⟩ := follows
  obtain ⟨changed, step, fed⟩ := Outcome.bind_eq_ok_iff.mp fed
  cases fed
  refine ⟨by rw [List.length_append, ← offset]; rfl, ?_⟩
  have holds : Holds limit (items.flatMap Item.text ++ text ++ [c]) changed := by
    cases mode : reader.mode with
    | plain =>
        rw [mode] at started
        obtain ⟨ready, isRun, rfl⟩ := started
        exact .take_plain mode front ready isRun offset step
    | quoted => exact .take_quoted mode front (mode ▸ started) step
    | index opened => exact .take_index mode front (mode ▸ started) step
  exact holds

theorem Follows.of_run {text : List Char} {reader : Reader}
    (run : text.foldlM (Reader.feed limit) {} = .ok reader) : Follows limit text reader :=
  Outcome.foldlM_preserves (Follows limit) (fun _ _ _ _ => Follows.feed) (.start limit) run

end Reader

end JsonColumn.Path
