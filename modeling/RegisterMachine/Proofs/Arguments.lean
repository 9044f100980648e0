import Mathlib.Data.List.Basic
import RegisterMachine.CommandLine.Options
import RegisterMachine.Proofs.Literal

set_option autoImplicit false

namespace RegisterMachine.CommandLine

theorem option_list_inj {α : Type} (first second : Option α) :
    first.toList = second.toList ↔ first = second := by
  cases first <;> cases second <;> simp

theorem bool_number_inj (first second : Bool) : first.toNat = second.toNat ↔ first = second := by
  cases first <;> cases second <;> decide

inductive Saying where
  | path (name : String)
  | size (text : String)
  | trace
deriving DecidableEq, Repr

namespace Saying

def paths : List Saying → List String
  | [] => []
  | path name :: later => name :: paths later
  | size _ :: later | trace :: later => paths later

def sizes : List Saying → List String
  | [] => []
  | size text :: later => text :: sizes later
  | path _ :: later | trace :: later => sizes later

def addTo (given : Arguments) : Saying → Option Arguments
  | path name => given.addPath name
  | size text => given.addSize text
  | trace => given.addTrace

theorem add_all_iff (said : List Saying) (given after : Arguments) :
    said.foldlM addTo given = some after ↔
      given.path?.toList ++ paths said = after.path?.toList ∧ "" ∉ paths said ∧
        given.sizeText?.toList ++ sizes said = after.sizeText?.toList ∧
        given.trace.toNat + said.count .trace = after.trace.toNat := by
  induction said generalizing given with
  | nil =>
      cases given
      cases after
      simp [paths, sizes, option_list_inj, bool_number_inj]
  | cons first later ih =>
      rw [List.foldlM_cons]
      obtain ⟨path?, size?, traced⟩ := given
      -- What is given already leaves no place for a second one.
      cases first with
      | path name =>
          cases path? with
          | none =>
              by_cases empty : name = ""
              · simp [addTo, Arguments.addPath, paths, empty]
              · simp [addTo, Arguments.addPath, paths, sizes, empty, ih, Ne.symm empty]
          | some other => cases after.path? <;> simp [addTo, Arguments.addPath, paths]
      | size text =>
          cases size? with
          | none => simp [addTo, Arguments.addSize, paths, sizes, ih]
          | some other => cases after.sizeText? <;> simp [addTo, Arguments.addSize, sizes]
      | trace =>
          cases traced with
          | false => simp [addTo, Arguments.addTrace, paths, sizes, ih, Nat.add_comm 1]
          | true => cases after.trace <;> simp [addTo, Arguments.addTrace]

def Plain (word : String) : Prop := ∀ c later, word.toList ≠ '-' :: c :: later

inductive Spelled : Saying → List String → Prop
  | path (name : String) (plain : Plain name) : Spelled (.path name) [name]
  | size (text : String) (plain : Plain text) : Spelled (.size text) ["--mem-size", text]
  | attached (text : String) : Spelled (.size text) ["--mem-size=" ++ text]
  | trace : Spelled .trace ["--trace"]

inductive Arranged : List Saying → List String → Prop
  | nothing : Arranged [] []
  | marked (names : List String) : Arranged (names.map .path) ("--" :: names)
  | next (first : Saying) (words : List String) (later : List Saying) (rest : List String)
      (spelled : Spelled first words) (arranged : Arranged later rest) :
      Arranged (first :: later) (words ++ rest)

theorem plain_iff (word : String) : Plain word ↔ looksLikeOption word = false := by
  rw [Plain, looksLikeOption]
  split
  · rename_i c later same
    simp [same]
  · rename_i other
    simpa using other

theorem plain_ne (word other : String) (plain : Plain word) (kind : looksLikeOption other = true) :
    word ≠ other := by
  intro same
  subst same
  rw [(plain_iff word).mp plain] at kind
  cases kind

theorem attached_size_iff (word text : String) :
    attachedSize? word = some text ↔ word = "--mem-size=" ++ text := by
  rw [attachedSize?, Option.map_eq_some_iff, ← String.toList_inj, String.toList_append]
  simp only [List.isPrefixOf?_eq_some_iff_append_eq]
  refine ⟨?_, ?_⟩
  · intro found
    obtain ⟨rest, taken, spelled⟩ := found
    have same : rest = text.toList := by rw [← spelled, String.toList_ofList]
    rw [← taken, same]
  · intro same
    exact ⟨text.toList, same.symm, String.ofList_toList⟩

theorem attached_ne (text other : String) (unattached : attachedSize? other = none) :
    "--mem-size=" ++ text ≠ other := by
  intro same
  rw [(attached_size_iff other text).mpr same.symm] at unattached
  cases unattached

theorem plain_unattached (word : String) (plain : Plain word) : attachedSize? word = none := by
  apply Option.eq_none_iff_forall_ne_some.mpr
  intro text attached
  apply plain '-' ("mem-size=".toList ++ text.toList)
  rw [(attached_size_iff word text).mp attached, String.toList_append]
  rfl

theorem add_paths_said (names : List String) (given : Arguments) :
    Arguments.addPaths names given = (names.map path).foldlM addTo given := by
  induction names generalizing given with
  | nil => rfl
  | cons name later ih =>
      rw [Arguments.addPaths, List.map_cons, List.foldlM_cons]
      exact congrArg (given.addPath name).bind (funext ih)

theorem add_spelled (first : Saying) (words rest : List String) (given : Arguments)
    (spelled : Spelled first words) :
    Arguments.add (words ++ rest) given = (addTo given first).bind (Arguments.add rest) := by
  cases spelled with
  | path name plain =>
      have size := plain_ne name "--mem-size" plain (by decide)
      have trace := plain_ne name "--trace" plain (by decide)
      have mark := plain_ne name "--" plain (by decide)
      rw [List.cons_append, List.nil_append, Arguments.add, plain_unattached name plain,
        (plain_iff name).mp plain]
      · rfl
      · exact fun same _ => size same
      · exact fun _ _ same _ => size same
      · exact trace
      · exact mark
  | size text plain =>
      rw [List.cons_append, List.cons_append, Arguments.add, (plain_iff text).mp plain]
      rfl
  | attached text =>
      have size := attached_ne text "--mem-size" (by decide)
      have trace := attached_ne text "--trace" (by decide)
      have mark := attached_ne text "--" (by decide)
      rw [List.cons_append, List.nil_append, Arguments.add, (attached_size_iff _ text).mpr rfl]
      · rfl
      · exact fun same _ => size same
      · exact fun _ _ same _ => size same
      · exact trace
      · exact mark
  | trace => rfl

theorem add_arranged (said : List Saying) (words : List String) (given : Arguments)
    (arranged : Arranged said words) : Arguments.add words given = said.foldlM addTo given := by
  induction arranged generalizing given with
  | nothing => rfl
  | marked names => exact add_paths_said names given
  | next first words later rest spelled _ ih =>
      rw [add_spelled first words rest given spelled, List.foldlM_cons]
      exact congrArg (addTo given first).bind (funext ih)

theorem spelled_or_refused (word : String) (rest : List String) :
    word = "--" ∨
      (∃ first words later, Spelled first words ∧ word :: rest = words ++ later) ∨
      ∀ given, Arguments.add (word :: rest) given = none := by
  by_cases plain : Plain word
  · exact .inr (.inl ⟨_, _, rest, .path word plain, rfl⟩)
  have kind : looksLikeOption word = true := by
    simpa using fun other => plain ((plain_iff word).mpr other)
  by_cases mark : word = "--"
  · exact .inl mark
  by_cases trace : word = "--trace"
  · exact .inr (.inl ⟨_, _, rest, .trace, trace ▸ rfl⟩)
  by_cases size : word = "--mem-size"
  · subst size
    cases rest with
    | nil => exact .inr (.inr fun _ => rfl)
    | cons text later =>
        by_cases value : Plain text
        · exact .inr (.inl ⟨_, _, later, .size text value, rfl⟩)
        · have dashed : looksLikeOption text = true := by
            simpa using fun other => value ((plain_iff text).mpr other)
          refine .inr (.inr fun given => ?_)
          rw [Arguments.add, if_pos dashed]
  cases attached : attachedSize? word with
  | some text =>
      have same := (attached_size_iff word text).mp attached
      exact .inr (.inl ⟨_, _, rest, .attached text, same ▸ rfl⟩)
  | none =>
      refine .inr (.inr fun given => ?_)
      rw [Arguments.add, attached, kind]
      · rfl
      · exact fun same _ => size same
      · exact fun _ _ same _ => size same
      · exact trace
      · exact mark

theorem arranged_of_add (words : List String) (given after : Arguments)
    (added : Arguments.add words given = some after) : ∃ said, Arranged said words := by
  cases words with
  | nil => exact ⟨[], .nothing⟩
  | cons word rest =>
      rcases spelled_or_refused word rest with rfl | ⟨first, words, later, spelled, split⟩ | refused
      · exact ⟨_, .marked rest⟩
      · have shorter : later.length < (word :: rest).length := by
          have positive : 0 < words.length := by cases spelled <;> exact Nat.succ_pos _
          rw [split, List.length_append]
          omega
        rw [split] at added ⊢
        rw [add_spelled first words later given spelled] at added
        obtain ⟨onward, -, added⟩ := Option.bind_eq_some_iff.mp added
        obtain ⟨said, arranged⟩ := arranged_of_add later onward after added
        exact ⟨first :: said, .next first words said later spelled arranged⟩
      · rw [refused given] at added
        cases added
termination_by words.length

theorem add_iff (words : List String) (given after : Arguments) :
    Arguments.add words given = some after ↔
      ∃ said, Arranged said words ∧ said.foldlM addTo given = some after := by
  refine ⟨?_, ?_⟩
  · intro added
    obtain ⟨said, arranged⟩ := arranged_of_add words given after added
    exact ⟨said, arranged, (add_arranged said words given arranged) ▸ added⟩
  · intro found
    obtain ⟨said, arranged, added⟩ := found
    exact (add_arranged said words given arranged).trans added

def SizeText (text : String) (size : Nat) : Prop :=
  Numeral.Unsigned text.toList size ∧ size < 18446744073709551616

inductive SizeFrom : List String → Option String → Nat → Prop
  | option (text : String) (environment? : Option String) (size : Nat) (read : SizeText text size) :
      SizeFrom [text] environment? size
  | environment (text : String) (size : Nat) (read : SizeText text size) :
      SizeFrom [] (some text) size
  | standard : SizeFrom [] none 1024

structure Chosen (said : List Saying) (environment? : Option String) (options : Options) : Prop where
  path : paths said = [options.path]
  named : options.path ≠ ""
  size : SizeFrom (sizes said) environment? options.size
  trace : said.count .trace = options.trace.toNat

theorem read_size_iff (text : String) (size : Nat) :
    readSize? text = some size ↔ SizeText text size := by
  rw [readSize?, Option.filter_eq_some_iff, Numeral.read_nat_iff, decide_eq_true_iff]
  rfl

theorem size_iff (given : Arguments) (environment? : Option String) (size : Nat) :
    given.size? environment? = some size ↔ SizeFrom given.sizeText?.toList environment? size := by
  obtain ⟨path?, sizeText?, trace⟩ := given
  refine ⟨?_, ?_⟩
  · intro sized
    cases sizeText? with
    | some text => exact .option text environment? size ((read_size_iff text size).mp sized)
    | none =>
        cases environment? with
        | some text => exact .environment text size ((read_size_iff text size).mp sized)
        | none =>
            cases sized
            exact .standard
  · intro sized
    cases sizeText? with
    | some text =>
        cases sized with
        | option _ _ _ read => exact (read_size_iff text size).mpr read
    | none =>
        cases sized with
        | environment text _ read => exact (read_size_iff text size).mpr read
        | standard => rfl

theorem size_from_once (texts : List String) (environment? : Option String) (size : Nat)
    (sized : SizeFrom texts environment? size) : texts = texts.head?.toList := by
  cases sized <;> rfl

theorem parse_iff (arguments : List String) (environment? : Option String) (options : Options) :
    Options.parse? arguments environment? = some options ↔
      ∃ said, Arranged said arguments ∧ Chosen said environment? options := by
  refine ⟨?_, ?_⟩
  · intro parsed
    obtain ⟨given, added, rest⟩ := Option.bind_eq_some_iff.mp parsed
    obtain ⟨path, named, rest⟩ := Option.bind_eq_some_iff.mp rest
    obtain ⟨size, sized, same⟩ := Option.bind_eq_some_iff.mp rest
    cases same
    obtain ⟨said, arranged, added⟩ := (add_iff arguments {} given).mp added
    obtain ⟨pathOnce, nonempty, sizeOnce, traceOnce⟩ := (add_all_iff said {} given).mp added
    have alone : paths said = [path] := by
      rw [named] at pathOnce
      exact pathOnce
    refine ⟨said, arranged, alone, ?_, ?_, ?_⟩
    · intro empty
      exact nonempty (alone ▸ List.mem_singleton.mpr empty.symm)
    · have chosen := (size_iff given environment? size).mp sized
      rw [← sizeOnce] at chosen
      exact chosen
    · exact (Nat.zero_add _).symm.trans traceOnce
  · intro described
    obtain ⟨said, arranged, chosen⟩ := described
    let given : Arguments :=
      { path? := some options.path, sizeText? := (sizes said).head?, trace := options.trace }
    have sizeOnce := size_from_once _ _ _ chosen.size
    have added : Arguments.add arguments {} = some given := by
      refine (add_iff arguments {} given).mpr ⟨said, arranged, ?_⟩
      refine (add_all_iff said {} given).mpr ⟨chosen.path, ?_, sizeOnce, ?_⟩
      · rw [chosen.path, List.mem_singleton]
        exact Ne.symm chosen.named
      · exact (Nat.zero_add _).trans chosen.trace
    have sized : given.size? environment? = some options.size := by
      rw [size_iff, ← sizeOnce]
      exact chosen.size
    rw [Options.parse?, added]
    exact congrArg (fun size? : Option Nat =>
      size?.bind fun size => some (Options.mk options.path size options.trace)) sized

example : Options.parse? ["--trace", "--", "--trace"] none =
    some { path := "--trace", size := 1024, trace := true } := by decide

end Saying

end RegisterMachine.CommandLine
