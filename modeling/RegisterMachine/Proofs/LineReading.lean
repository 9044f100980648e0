import Mathlib.Data.List.TakeWhile
import RegisterMachine.Proofs.ConsoleAgreement

set_option autoImplicit false

namespace RegisterMachine

open Text

namespace Reading

inductive FeedLines : List UInt8 → List (List UInt8) → Prop
  | empty : FeedLines [] []
  | last (line : List UInt8) (nonempty : line ≠ []) (whole : 10 ∉ line) : FeedLines line [line]
  | ended (line rest : List UInt8) (later : List (List UInt8)) (whole : 10 ∉ line)
      (split : FeedLines rest later) : FeedLines (line ++ 10 :: rest) ((line ++ [10]) :: later)

def IsText (line : List UInt8) : Prop := ∃ text, line = utf8 text

def Spells (line : List UInt8) (w : Word) : Prop :=
  ∃ literal ending, line = utf8 (literal ++ ending) ∧ (∀ c ∈ ending, c = '\r' ∨ c = '\n') ∧
    Numeral.Literal literal w.toInt

-- What a question comes to, given the line that there is for it: the answer, what is shown after
-- the prompt, and the warnings.
inductive Reply (default : Word) : Option (List UInt8) → Word → String → List Event → Prop
  | number (line : List UInt8) (w : Word) (spelled : Spells line w) :
      Reply default (some line) w "" []
  | notANumber (line : List UInt8) (text : IsText line) (unspelled : ∀ w, ¬ Spells line w) :
      Reply default (some line) default
        ("Error converting input. Returning default " ++ default.text ++ "\n") []
  | notText (line : List UInt8) (foreign : ¬ IsText line) :
      Reply default (some line) default
        ("Error reading input. Returning default " ++ default.text ++ "\n")
        [.inputFailed "stream did not contain valid UTF-8"]
  | endOfInput :
      Reply default none default
        ("Error reading input. Returning default " ++ default.text ++ "\n") []

theorem feed_lines_join (bytes : List UInt8) (lines : List (List UInt8))
    (split : FeedLines bytes lines) : lines.flatten = bytes := by
  induction split with
  | empty => rfl
  | last line => exact List.append_nil line
  | ended line rest later _ _ ih => simp [ih]

theorem feed_lines_exist (bytes : List UInt8) : ∃ lines, FeedLines bytes lines := by
  by_cases ended : 10 ∈ bytes
  · obtain ⟨line, rest, cut, whole⟩ := List.eq_append_cons_of_mem ended
    have shorter : rest.length < bytes.length := by
      rw [cut, List.length_append, List.length_cons]
      omega
    obtain ⟨later, split⟩ := feed_lines_exist rest
    exact ⟨(line ++ [10]) :: later, cut ▸ .ended line rest later whole split⟩
  · by_cases nothing : bytes = []
    · exact ⟨[], nothing ▸ .empty⟩
    · exact ⟨[bytes], .last bytes nothing ended⟩
termination_by bytes.length

theorem feed_lines_nonempty (bytes : List UInt8) (lines : List (List UInt8))
    (split : FeedLines bytes lines) : ∀ line ∈ lines, line ≠ [] := by
  induction split with
  | empty => simp
  | last line nonempty => simp [nonempty]
  | ended line rest later _ _ ih => simpa using ih

theorem split_line_feed_lines (bytes : List UInt8) (lines : List (List UInt8))
    (split : FeedLines bytes lines) :
    (splitLine bytes).1 = lines.headD [] ∧ FeedLines (splitLine bytes).2 lines.tail := by
  cases split with
  | empty => exact ⟨rfl, .empty⟩
  | last _ _ whole =>
      rw [split_line_last bytes whole]
      exact ⟨rfl, .empty⟩
  | ended line rest later whole split =>
      rw [split_line_ended line rest whole]
      exact ⟨rfl, split⟩

theorem trim_end_split (text : List Char) :
    ∃ ending, text = trimEnd text ++ ending ∧ ∀ c ∈ ending, c = '\r' ∨ c = '\n' := by
  refine ⟨(text.reverse.takeWhile fun c => c == '\r' || c == '\n').reverse, ?_, ?_⟩
  · rw [trimEnd, ← List.reverse_append, List.takeWhile_append_dropWhile, List.reverse_reverse]
  · intro c inside
    have trimmed := List.mem_takeWhile_imp (List.mem_reverse.mp inside)
    simpa using trimmed

theorem from_utf8_none_iff (line : List UInt8) :
    String.fromUTF8? line.toByteArray = none ↔ ¬ IsText line := by
  refine ⟨?_, ?_⟩
  · intro refused text
    obtain ⟨text, rfl⟩ := text
    rw [from_utf8] at refused
    cases refused
  · intro foreign
    have invalid : ¬ line.toByteArray.IsValidUTF8 := by
      intro valid
      obtain ⟨text, encoded⟩ := valid
      have bytes : line.toArray = (utf8 text).toArray := by
        have data := congrArg ByteArray.data encoded
        rw [List.utf8Encode, List.data_toByteArray, List.data_toByteArray] at data
        exact data
      exact foreign ⟨text, congrArg Array.toList bytes⟩
    rw [String.fromUTF8?, dif_neg invalid]

theorem of_line_spelled (line : List UInt8) (w : Word) (spelled : Spells line w) :
    ofLine line = .number w := by
  obtain ⟨literal, ending, rfl, blank, valid⟩ := spelled
  exact of_line_literal w literal ending valid blank

theorem of_line_unspelled (line : List UInt8) (nonempty : line ≠ []) (text : IsText line)
    (unspelled : ∀ w, ¬ Spells line w) : ofLine line = .notANumber := by
  obtain ⟨text, rfl⟩ := text
  have chars : text ≠ [] := fun empty => nonempty (empty ▸ rfl)
  rw [of_line_text text chars, ofText, String.toList_ofList]
  cases read : Word.read? (trimEnd text) with
  | none => rfl
  | some w =>
      obtain ⟨ending, split, blank⟩ := trim_end_split text
      have valid := (Word.read_iff_literal _ w).mp read
      exact absurd ⟨trimEnd text, ending, congrArg utf8 split, blank, valid⟩ (unspelled w)

theorem of_line_foreign (line : List UInt8) (nonempty : line ≠ []) (foreign : ¬ IsText line) :
    ofLine line = .failed "stream did not contain valid UTF-8" := by
  rw [ofLine, if_neg nonempty, (from_utf8_none_iff line).mpr foreign]

end Reading

structure Question where
  prompt : String
  default : Word
deriving DecidableEq, Repr

namespace Terminal

open Reading

def afterAll (asked : List Question) (terminal : Terminal) : Terminal :=
  asked.foldl (fun terminal question => (terminal.ask question.prompt question.default).2.1) terminal

theorem ask_reading (terminal : Terminal) (question : Question)
    (working : terminal.output = .working) :
    let reading := ofLine (splitLine terminal.unread).1
    terminal.ask question.prompt question.default =
      (reading.answer question.default,
        { terminal with
          written := terminal.written ++ (question.prompt ++ ": ") ++
            ((reading.complaint? question.default).map (· ++ "\n")).getD ""
          unread := (splitLine terminal.unread).2 },
        reading.warnings) := by
  intro reading
  have read := terminal.read_working question.prompt working
  rw [ask, read]
  cases complaint : reading.complaint? question.default with
  | none => simp [reading, complaint]
  | some text =>
      simp only [reading] at complaint
      simp [reading, complaint, report_working, working]

theorem ask_line (terminal : Terminal) (question : Question) (lines : List (List UInt8))
    (working : terminal.output = .working) (split : FeedLines terminal.unread lines) :
    ∃ answer said warnings, Reply question.default lines.head? answer said warnings ∧
      terminal.ask question.prompt question.default =
        (answer,
          { terminal with
            written := terminal.written ++ (question.prompt ++ ": ") ++ said
            unread := lines.tail.flatten },
          warnings) := by
  obtain ⟨first, onward⟩ := split_line_feed_lines terminal.unread lines split
  have asked := terminal.ask_reading question working
  rw [first, ← feed_lines_join _ _ onward] at asked
  cases lines with
  | nil => exact ⟨_, _, _, .endOfInput, asked⟩
  | cons line later =>
      have nonempty := feed_lines_nonempty _ _ split line List.mem_cons_self
      rw [List.headD_cons] at asked
      by_cases spelled : ∃ w, Spells line w
      · obtain ⟨w, spelled⟩ := spelled
        rw [of_line_spelled line w spelled] at asked
        exact ⟨_, _, _, .number line w spelled, asked⟩
      · have unspelled := not_exists.mp spelled
        by_cases text : IsText line
        · rw [of_line_unspelled line nonempty text unspelled] at asked
          exact ⟨_, _, _, .notANumber line text unspelled, asked⟩
        · rw [of_line_foreign line nonempty text] at asked
          exact ⟨_, _, _, .notText line text, asked⟩

theorem after_all_reads (asked : List Question) (terminal : Terminal) (lines : List (List UInt8))
    (working : terminal.output = .working) (split : FeedLines terminal.unread lines) :
    (terminal.afterAll asked).output = .working ∧
      FeedLines (terminal.afterAll asked).unread (lines.drop asked.length) := by
  induction asked generalizing terminal lines with
  | nil => exact ⟨working, split⟩
  | cons question later ih =>
      obtain ⟨_, _, _, -, asked⟩ := terminal.ask_line question lines working split
      obtain ⟨-, onward⟩ := split_line_feed_lines terminal.unread lines split
      have after := congrArg (fun result => result.2.1) asked
      have rest : FeedLines lines.tail.flatten lines.tail :=
        (feed_lines_join _ _ onward) ▸ onward
      have next := ih (terminal.ask question.prompt question.default).2.1 lines.tail
        (after ▸ working) (after ▸ rest)
      rw [List.drop_tail] at next
      exact next

theorem readings_take_one_line_each (terminal : Terminal) (working : terminal.output = .working) :
    (∃ lines, FeedLines terminal.unread lines) ∧
      ∀ lines, FeedLines terminal.unread lines → ∀ (asked : List Question) (next : Question),
        let before := terminal.afterAll asked
        let (answer, after, warnings) := before.ask next.prompt next.default
        before.unread = (lines.drop asked.length).flatten ∧
          after.unread = (lines.drop (asked.length + 1)).flatten ∧
          ∃ said, Reply next.default lines[asked.length]? answer said warnings ∧
            after.written = before.written ++ (next.prompt ++ ": ") ++ said := by
  refine ⟨feed_lines_exist terminal.unread, ?_⟩
  intro lines split asked next before
  obtain ⟨still, left⟩ := terminal.after_all_reads asked lines working split
  obtain ⟨answer, said, warnings, reply, asks⟩ := before.ask_line next _ still left
  rw [asks]
  rw [List.head?_drop] at reply
  refine ⟨(feed_lines_join _ _ left).symm, ?_, said, reply, rfl⟩
  rw [List.tail_drop]

theorem reading_after_a_bad_line :
    let terminal : Terminal := { unread := [255, 10, 43, 55, 13, 13, 10, 32, 53] }
    let before := terminal.afterAll [⟨"a", 1⟩]
    terminal.output = .working ∧
      FeedLines terminal.unread [[255, 10], [43, 55, 13, 13, 10], [32, 53]] ∧
      before.unread = [43, 55, 13, 13, 10, 32, 53] ∧ (before.ask "b" 2).1 = 7 ∧
      (before.ask "b" 2).2.1.unread = [32, 53] ∧
      ∃ said, Reply 2 (some [43, 55, 13, 13, 10]) (before.ask "b" 2).1 said (before.ask "b" 2).2.2 := by
  intro terminal before
  have split : FeedLines terminal.unread [[255, 10], [43, 55, 13, 13, 10], [32, 53]] :=
    .ended [255] _ _ (by decide) (.ended [43, 55, 13, 13] _ _ (by decide)
      (.last [32, 53] (by decide) (by decide)))
  obtain ⟨unread, rest, said, reply, -⟩ :=
    (readings_take_one_line_each terminal rfl).2 _ split [⟨"a", 1⟩] ⟨"b", 2⟩
  exact ⟨rfl, split, unread, rfl, rest, said, reply⟩

end Terminal

end RegisterMachine
