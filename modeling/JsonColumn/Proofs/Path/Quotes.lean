import JsonColumn.Proofs.Path.Diagnosis
import Mathlib.Algebra.Group.Nat.Even

/-!
Two ways to be inside quotes. The reader has a mode for it, and the check of a key cuts the name at
its quotes. They agree at every place where the reader hands a name over to the check, so that the
check finds the quotes of such a name in pairs.
-/

namespace JsonColumn

namespace Text

theorem Paired.even_count {Bare : Char → Prop} {Stretch : List Char → Prop} {text : List Char}
    (paired : Paired Bare Stretch text) : Even (text.count '"') := by
  have odd := paired.entries.1
  rw [length_splitOn] at odd
  rw [Nat.even_iff]
  omega

theorem odd_splitOn_iff {text : List Char} :
    Odd (splitOn '"' text).length ↔ Even (text.count '"') := by
  rw [length_splitOn, Nat.odd_add_one, Nat.not_odd_iff_even]

end Text

def Path.Mode.outer : Mode → Mode
  | .quoted => .plain
  | mode => mode

namespace Path.Reader

variable {limit : Int} {reader next : Reader} {c : Char} {taken rest : List Char}

structure Tracks (limit : Int) (reader : Reader) : Prop where
  plain : reader.mode = .plain → Even (reader.pending.toList.count '"') ∧
    ∀ c ∈ Text.bareText reader.pending.toList, c ∉ ['.', '$', '[']
  quoted : reader.mode = .quoted → Odd (reader.pending.toList.count '"')
  index : ∀ opened, reader.mode = .index opened →
    ∀ c ∈ reader.pending.toList, c.isDigit = true
  depth : reader.segments.length ≤ max limit 0

theorem Follows.isRun (follows : Follows limit taken reader) (mode : reader.mode = .plain) :
    Item.IsRun reader.pending.toList := by
  obtain ⟨-, items, text, -, -, started⟩ := follows
  rw [mode] at started
  exact started.2.1

theorem Follows.tracks (follows : Follows limit taken reader) : reader.Tracks limit where
  plain mode := ⟨(follows.isRun mode).even_count, (follows.isRun mode).bare_of_mem⟩
  quoted mode := by
    obtain ⟨-, items, text, -, -, started⟩ := follows
    rw [mode] at started
    obtain ⟨-, -, run, inside, pending, isRun, unquoted⟩ := started
    rw [pending, List.count_append, List.count_cons_self, List.count_eq_zero_of_not_mem unquoted]
    exact isRun.even_count.add_one
  index opened mode := by
    obtain ⟨-, items, text, -, -, started⟩ := follows
    rw [mode] at started
    exact started.2.2
  depth := by
    obtain ⟨-, items, text, -, front, -⟩ := follows
    have depth := front.depth
    omega

/-- The runs of characters taken in quoted mode. The character at which the mode changes is no part
of them. -/
def quotedRuns (limit : Int) : Reader → List Char → List (List Char)
  | reader, [] => if reader.mode = .quoted then [[]] else []
  | reader, c :: rest =>
      match reader.feed limit c with
      | .error _ => []
      | .ok next =>
          if reader.mode = .quoted then
            if next.mode = .quoted then (quotedRuns limit next rest).modifyHead (c :: ·)
            else [] :: quotedRuns limit next rest
          else quotedRuns limit next rest

theorem quotedRuns_plain (mode : reader.mode = .plain) (fed : reader.feed limit c = .ok next)
    (rest : List Char) :
    reader.quotedRuns limit (c :: rest) = next.quotedRuns limit rest := by
  simp [quotedRuns, fed, mode]

theorem quotedRuns_content {content : List Char} (unquoted : '"' ∉ content) (reader : Reader)
    (mode : reader.mode = .quoted) (rest : List Char) : ∃ closed : Reader, closed.mode = .plain ∧
      reader.quotedRuns limit (content ++ '"' :: rest) =
        content :: closed.quotedRuns limit rest := by
  induction content generalizing reader with
  | nil =>
      refine ⟨{ reader.pushed ['"'] with mode := .plain }, rfl, ?_⟩
      simp [quotedRuns, feed_closingQuote mode, mode]
  | cons c content ih =>
      simp only [List.mem_cons, not_or] at unquoted
      have inside : ¬c = '"' := fun same => unquoted.1 same.symm
      have kept : reader.feed limit c = .ok { reader.pushed [c] with mode := .quoted } :=
        feed_of_take (by simp [take, mode, inside])
      obtain ⟨closed, plain, runs⟩ := ih unquoted.2 { reader.pushed [c] with mode := .quoted } rfl
      exact ⟨closed, plain, by simp [quotedRuns, kept, mode, runs]⟩

theorem quotedRuns_run {run : List Char} (isRun : Item.IsRun run) (reader : Reader)
    (mode : reader.mode = .plain) : reader.quotedRuns limit run = Text.stretches run := by
  induction isRun generalizing reader with
  | nil => simp [quotedRuns, mode, Text.stretches]
  | @bare c run unquoted allowed _ ih =>
      rw [quotedRuns_plain mode (feed_bare mode unquoted allowed), ih (reader.pushed [c]) mode,
        Text.stretches_bare unquoted]
  | @quoted content run unquoted _ _ ih =>
      obtain ⟨closed, plain, runs⟩ :=
        quotedRuns_content unquoted { reader.pushed ['"'] with mode := .quoted } rfl run
      rw [quotedRuns_plain mode (feed_openingQuote mode), runs, ih closed plain,
        Text.stretches_quoted unquoted]

/-- The reader hands what is pending over to be a key: it is outside of quotes, and a stop follows
or nothing does. -/
structure Offers (limit : Int) (taken : List Char) (reader : Reader) (rest : List Char) :
    Prop where
  run : taken.foldlM (feed limit) {} = .ok reader
  mode : reader.mode = .plain
  filled : reader.pending ≠ ""
  ended : ∀ c ∈ rest.head?, c ∈ Item.stops

theorem Offers.append (offers : Offers limit taken reader rest) (more : rest ≠ [])
    (others : List Char) : Offers limit taken reader (rest ++ others) := by
  refine ⟨offers.run, offers.mode, offers.filled, ?_⟩
  rw [List.head?_append_of_ne_nil _ more]
  exact offers.ended

theorem endKey_effect (mode : reader.mode = .plain) (closed : reader.endKey limit = .ok next) :
    next.pending = "" ∧ next.mode = .plain ∧ ∀ key, .key key ∈ next.segments →
      .key key ∈ reader.segments ∨ reader.pending = key.name ∧ reader.pending ≠ "" := by
  rcases endKey_eq_ok_iff.mp closed with ⟨empty, rfl⟩ | ⟨key, name, named, -, rfl⟩
  · exact ⟨empty, mode, fun key member => .inl member⟩
  · refine ⟨rfl, mode, fun other member => ?_⟩
    rcases List.mem_append.mp member with earlier | last
    · exact .inl earlier
    · cases List.mem_singleton.mp last
      exact .inr ⟨name.symm, name ▸ named⟩

theorem take_effect (taken : reader.take limit c = .ok next) :
    (next.pending = reader.pending.push c ∧ next.segments = reader.segments ∧
      next.mode.outer = reader.mode.outer) ∨
    (next.pending = "" ∧ next.mode.outer = next.mode ∧ ∀ key, .key key ∈ next.segments →
      .key key ∈ reader.segments ∨ reader.mode = .plain ∧ c ∈ Item.stops ∧
        reader.pending = key.name ∧ reader.pending ≠ "") := by
  cases mode : reader.mode with
  | quoted =>
      simp only [take, mode] at taken
      cases taken
      refine .inl ⟨rfl, rfl, ?_⟩
      by_cases quote : c = '"'
      · simp [quote, Mode.outer]
      · simp [quote, Mode.outer]
  | index opened =>
      simp only [take, mode] at taken
      split at taken
      · obtain ⟨-, -, -, rfl⟩ := endIndex_eq_ok_iff.mp taken
        exact .inr ⟨rfl, rfl, fun key member => .inl (by simpa using member)⟩
      split at taken
      · cases taken
        exact .inl ⟨rfl, rfl, rfl⟩
      · cases taken
  | plain =>
      simp only [take, mode] at taken
      split at taken
      · cases taken
        exact .inl ⟨rfl, rfl, rfl⟩
      split at taken
      · rename_i separator
        obtain ⟨empty, plain, keys⟩ := endKey_effect mode taken
        have stop := Item.separator_mem_stops separator
        exact .inr ⟨empty, by rw [plain]; rfl,
          fun key member => (keys key member).imp_right fun offered => ⟨rfl, stop, offered⟩⟩
      split at taken
      · rename_i bracket
        obtain ⟨ended, closed, taken⟩ := Outcome.bind_eq_ok_iff.mp taken
        cases taken
        obtain ⟨empty, -, keys⟩ := endKey_effect mode closed
        have stop : c ∈ Item.stops := by simp [bracket, Item.stops]
        exact .inr ⟨empty, rfl,
          fun key member => (keys key member).imp_right fun offered => ⟨rfl, stop, offered⟩⟩
      · cases taken
        exact .inl ⟨rfl, rfl, rfl⟩

structure Remembers (limit : Int) (taken : List Char) (reader : Reader) : Prop where
  run : taken.foldlM (feed limit) {} = .ok reader
  gathered : ∃ before start, taken = before ++ reader.pending.toList ∧
    before.foldlM (feed limit) {} = .ok start ∧ start.pending = "" ∧
    start.mode = reader.mode.outer
  keys : ∀ key, .key key ∈ reader.segments → ∃ front offering rest, taken = front ++ rest ∧
    rest ≠ [] ∧ Offers limit front offering rest ∧ offering.pending = key.name

theorem Remembers.start (limit : Int) : Remembers limit [] {} :=
  ⟨rfl, ⟨[], {}, rfl, rfl, rfl, rfl⟩, by simp⟩

theorem Remembers.feed (remembers : Remembers limit taken reader)
    (fed : reader.feed limit c = .ok next) : Remembers limit (taken ++ [c]) next := by
  have run : (taken ++ [c]).foldlM (Reader.feed limit) {} = .ok next := by
    rw [Outcome.foldlM_append_of_ok remembers.run, Outcome.foldlM_cons_of_ok fed]
    rfl
  obtain ⟨changed, step, fed⟩ := Outcome.bind_eq_ok_iff.mp fed
  cases fed
  have older : ∀ key, .key key ∈ reader.segments → ∃ front offering rest,
      taken ++ [c] = front ++ rest ∧ rest ≠ [] ∧ Offers limit front offering rest ∧
        offering.pending = key.name := by
    intro key member
    obtain ⟨front, offering, rest, rfl, more, offers, name⟩ := remembers.keys key member
    exact ⟨front, offering, rest ++ [c], by simp, by simp, offers.append more [c], name⟩
  rcases take_effect step with ⟨pending, segments, mode⟩ | ⟨empty, mode, keys⟩
  · obtain ⟨before, start, covers, begun, nothing, outer⟩ := remembers.gathered
    refine ⟨run, ⟨before, start, ?_, begun, nothing, outer.trans mode.symm⟩, ?_⟩
    · simp [covers, pending]
    · intro key member
      exact older key (segments ▸ member)
  · refine ⟨run, ⟨taken ++ [c], _, by simp [empty], run, empty, mode.symm⟩, ?_⟩
    intro key member
    rcases keys key member with earlier | ⟨plain, stop, name, filled⟩
    · exact older key earlier
    · exact ⟨taken, reader, [c], rfl, by simp,
        ⟨remembers.run, plain, filled, by simpa using stop⟩, name⟩

theorem Remembers.of_run (run : taken.foldlM (Reader.feed limit) {} = .ok reader) :
    Remembers limit taken reader :=
  Outcome.foldlM_preserves (Remembers limit) (fun _ _ _ _ => Remembers.feed) (.start limit) run

/-- A name gathered from a place where nothing was pending, whose parts between quotes are the runs
read in quoted mode. -/
structure CutIntoRuns (limit : Int) (taken name : List Char) : Prop where
  odd : Odd (Text.splitOn '"' name).length
  runs : ∃ before start, taken = before ++ name ∧ before.foldlM (feed limit) {} = .ok start ∧
    start.pending = "" ∧ Text.oddEntries (Text.splitOn '"' name) = start.quotedRuns limit name

theorem Offers.cutIntoRuns (offers : Offers limit taken reader rest) :
    CutIntoRuns limit taken reader.pending.toList := by
  have isRun := (Follows.of_run offers.run).isRun offers.mode
  refine ⟨Text.odd_splitOn_iff.mpr isRun.even_count, ?_⟩
  obtain ⟨before, start, covers, begun, nothing, mode⟩ := (Remembers.of_run offers.run).gathered
  rw [offers.mode] at mode
  exact ⟨before, start, covers, begun, nothing, (quotedRuns_run isRun start mode).symm⟩

end Path.Reader

namespace Path

variable {text : String} {limit : Int}

def Offered (limit : Int) (text : String) (name : String) : Prop :=
  ∃ taken reader rest, text.toList = taken ++ rest ∧ Reader.Offers limit taken reader rest ∧
    reader.pending = name

theorem offered_of_read {path : Path} (success : read text limit = .ok path) {key : Key}
    (member : .key key ∈ path.segments) : Offered limit text key.name := by
  obtain ⟨-, reader, run, closes, -⟩ := closes_of_read success
  obtain ⟨-, -, keys⟩ := Reader.endKey_effect closes.mode closes.closed
  rcases keys key member with earlier | ⟨name, filled⟩
  · obtain ⟨front, offering, rest, covers, -, offers, name⟩ :=
      (Reader.Remembers.of_run run).keys key earlier
    exact ⟨front, offering, rest, covers, offers, name⟩
  · exact ⟨text.toList, reader, [], by simp, ⟨run, closes.mode, filled, by simp⟩, name⟩

theorem offered_of_refused {name : String} {cause : KeyFault}
    (failed : read text limit = .error (.key name cause)) :
    Offered limit text name ∧ Key.fault? name = some cause := by
  have refused {reader : Reader} (ended : reader.endKey limit = .error (.key name cause)) :
      reader.pending ≠ "" ∧ reader.pending = name ∧ Key.fault? name = some cause := by
    obtain ⟨filled, ⟨found, isFault, same⟩ | ⟨-, -, deep⟩⟩ := Reader.endKey_eq_error_iff.mp ended
    · cases same
      exact ⟨filled, rfl, isFault⟩
    · cases deep
  rcases read_eq_error_iff.mp failed with
    ⟨-, null⟩ | ⟨-, ⟨taken, c, rest, reader, split, run, fed⟩ | ⟨reader, run, finished⟩⟩
  · cases null
  · rcases Reader.feed_eq_error_iff.mp fed with ⟨mode, stop, ended⟩ | ⟨opened, -, inIndex⟩
    · obtain ⟨filled, same, isFault⟩ := refused ended
      exact ⟨⟨taken, reader, c :: rest, split, ⟨run, mode, filled, by simpa using stop⟩, same⟩,
        isFault⟩
    · simp [Reader.endIndex_eq_error_iff] at inIndex
  · rcases Reader.finish_eq_error_iff.mp finished with
      ⟨-, quote⟩ | ⟨opened, -, index⟩ | ⟨mode, ended⟩
    · cases quote
    · cases index
    · obtain ⟨filled, same, isFault⟩ := refused ended
      exact ⟨⟨text.toList, reader, [], by simp, ⟨run, mode, filled, by simp⟩, same⟩, isFault⟩

theorem Offered.fault?_ne_unpaired {name : String} (offered : Offered limit text name) :
    Key.fault? name ≠ some .unpairedQuote := by
  obtain ⟨taken, reader, rest, -, offers, rfl⟩ := offered
  have odd := Nat.odd_iff.mp offers.cutIntoRuns.odd
  intro unpaired
  unfold Key.fault? at unpaired
  split at unpaired
  · cases unpaired
  · simp [odd] at unpaired

theorem eq_unpairedQuote_of_details {fault : PathFault} {name : String}
    (same : fault.details text = s!"key {Text.quoted name} has an unpaired quote") :
    ∃ found, fault = .key found .unpairedQuote := by
  have letters := congrArg String.toList same
  unfold PathFault.details KeyFault.details at letters
  rcases fault with _ | ⟨found, _ | _ | content⟩ | _ | _ | _ | _ | _ | _
  case key.unpairedQuote => exact ⟨found, rfl⟩
  case key.forbiddenChar =>
    simp only [String.toList_append] at letters
    have longer : " contains a backslash or null byte".toList <:+ _ := ⟨_, letters⟩
    have ends : " has an unpaired quote".toList <:+ " contains a backslash or null byte".toList :=
      List.suffix_of_suffix_length_le (List.suffix_append _ _) longer (by decide)
    exact absurd ends (by decide)
  all_goals
    have first := congrArg List.head? letters
    simp only [String.toList_append, List.head?_append] at first
    cases first

theorem not_reports_unpaired (kind : RejectionKind) (name : String) :
    ¬Reports text limit kind s!"key {Text.quoted name} has an unpaired quote" := by
  rintro ⟨rejection, failed, -, details⟩
  obtain ⟨fault, refused, same⟩ := outcome_parse_eq_error_iff.mp failed
  cases same
  obtain ⟨found, rfl⟩ := eq_unpairedQuote_of_details details
  obtain ⟨offered, unpaired⟩ := offered_of_refused refused
  exact offered.fault?_ne_unpaired unpaired

/-- Names that are handed over to be keys have their quotes where the mode has changed, so none has
an unpaired one. -/
theorem parse_pairs_quotes (text : String) (limit : Int) :
    (∀ taken reader, taken <+: text.toList →
      taken.foldlM (Reader.feed limit) {} = .ok reader → reader.Tracks limit) ∧
    (∀ taken reader rest, text.toList = taken ++ rest → Reader.Offers limit taken reader rest →
      Reader.CutIntoRuns limit taken reader.pending.toList) ∧
    (∀ path key, (parse text limit).outcome = .ok path → .key key ∈ path.segments →
      Offered limit text key.name) ∧
    (∀ name cause, (parse text limit).outcome = .error (.rejection (.path text (.key name cause))) →
      Offered limit text name) ∧
    ∀ kind name, ¬Reports text limit kind s!"key {Text.quoted name} has an unpaired quote" := by
  refine ⟨?_, ?_, ?_, ?_, not_reports_unpaired⟩
  · intro taken reader _ run
    exact (Reader.Follows.of_run run).tracks
  · intro taken reader rest _ offers
    exact offers.cutIntoRuns
  · intro path key parsed member
    exact offered_of_read (outcome_parse_eq_ok_iff.mp parsed) member
  · intro name cause failed
    obtain ⟨fault, refused, same⟩ := outcome_parse_eq_error_iff.mp failed
    cases same
    exact (offered_of_refused refused).1

def stopInQuotes : Reader where
  pending := "\"up.to\"date"
  segments := [.key ⟨"log", by decide⟩]
  offset := 15

def datedLog : Path where
  segments := stopInQuotes.segments ++ [.key ⟨"\"up.to\"date", by decide +kernel⟩, .index 7]

theorem offers_stopInQuotes :
    Reader.Offers 3 "log.\"up.to\"date".toList stopInQuotes "[7]".toList where
  run := rfl
  mode := rfl
  filled := by decide
  ended c first := by
    cases (Option.some.inj first : '[' = c)
    decide

theorem parse_pairs_quotes_stopInQuotes :
    stopInQuotes.Tracks 3 ∧
      Reader.CutIntoRuns 3 "log.\"up.to\"date".toList "\"up.to\"date".toList ∧
      Offered 3 "log.\"up.to\"date[7]" "log" ∧ Offered 3 "log.\"\"[7]" "\"\"" ∧
      ¬Reports "log.\"up.to\"date[7]" 3 .path "key 'log' has an unpaired quote" := by
  obtain ⟨tracks, cut, keys, -, never⟩ := parse_pairs_quotes "log.\"up.to\"date[7]" 3
  obtain ⟨-, -, -, refused, -⟩ := parse_pairs_quotes "log.\"\"[7]" 3
  refine ⟨tracks _ _ ⟨"[7]".toList, by decide⟩ offers_stopInQuotes.run,
    cut _ _ _ (by decide) offers_stopInQuotes, ?_, refused _ _ rfl, never .path "log"⟩
  exact keys datedLog ⟨"log", by decide⟩ rfl (by simp [datedLog, stopInQuotes])

end Path

end JsonColumn
