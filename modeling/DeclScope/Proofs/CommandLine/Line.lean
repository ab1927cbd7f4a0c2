import DeclScope.CommandLine.Options
import Mathlib.Data.List.Nodup

/-!
# Well-formed command lines

A command line is well formed if each of its words, up to a bare `--`, is one of the flags or the
name of a file, no word is given twice, and exactly one of them says where the source is.  The words
may come in any order, and anything may stand behind `--`.

What such a line asks for can be told without reading it from left to right: a flag is set if it is
among the words, and the file is the word that names one.  Reading the line leads to just this.
-/

namespace DeclScope.CommandLine

/-- Whether a word names a file: it does not begin with a dash, or is the dash alone. -/
def namesFile (word : String) : Bool := word == "-" || word.toList.head?.any (· != '-')

/-- The words that set an option. -/
def flags : List String := ["--stdin", "--dump", "--compact", "--log-json"]

/-- The words before `--` are flags and at most one file, none of them given twice, and exactly one
of them says where the source is. -/
structure WellFormed (words : List String) : Prop where
  known : ∀ word ∈ words, namesFile word = true ∨ word ∈ flags
  distinct : words.Nodup
  oneSource : ∃! word, word ∈ words ∧ (namesFile word = true ∨ word = "--stdin")

/-- What the words before `--` and the arguments behind it ask for. -/
def Options.ofWords (words arguments : List String) : Options where
  file? := words.find? namesFile
  stdin := words.contains "--stdin"
  dump := words.contains "--dump"
  compact := words.contains "--compact"
  logJson := words.contains "--log-json"
  frontEndArguments := arguments

/-- A word that names a file is read as one. -/
theorem Options.read_file {word : String} (file : namesFile word = true) (options : Options) :
    options.read word = once options.file?.isSome { options with file? := some word } := by
  by_cases dash : word = "-"
  · subst dash
    rfl
  · unfold read
    split <;> simp_all [namesFile]

/-- No flag names a file. -/
theorem namesFile_of_flag {word : String} (flag : word ∈ flags) : namesFile word = false := by
  revert word
  decide

/-- There is one file at most. -/
theorem WellFormed.only_file {words : List String} (wellFormed : WellFormed words)
    {first second : String} (inFirst : first ∈ words) (inSecond : second ∈ words)
    (firstFile : namesFile first = true) (secondFile : namesFile second = true) :
    first = second := by
  obtain ⟨source, -, only⟩ := wellFormed.oneSource
  have firstSource : first = source := only first ⟨inFirst, .inl firstFile⟩
  have secondSource : second = source := only second ⟨inSecond, .inl secondFile⟩
  exact firstSource.trans secondSource.symm

/-- One more word is read into what the words before it ask for. -/
theorem Options.read_ofWords {earlier : List String} {word : String}
    (known : namesFile word = true ∨ word ∈ flags) (fresh : word ∉ earlier)
    (single : namesFile word = true → ∀ other ∈ earlier, namesFile other = false) :
    (ofWords earlier []).read word = .ok (ofWords (earlier ++ [word]) []) := by
  rcases known with file | flag
  · have noFile : earlier.find? namesFile = none := by
      simpa [List.find?_eq_none] using single file
    have noFlag : ∀ flag ∈ flags, flag ≠ word := by
      rintro flag listed rfl
      cases file.symm.trans (namesFile_of_flag listed)
    simp only [flags, List.forall_mem_cons] at noFlag
    rw [read_file file]
    simp [ofWords, once, noFile, file, noFlag]
  · have noFile : namesFile word = false := namesFile_of_flag flag
    simp only [flags, List.mem_cons, List.not_mem_nil, or_false] at flag
    rcases flag with rfl | rfl | rfl | rfl <;>
      simp [Options.read, ofWords, once, fresh, noFile]

/-- Words are read one after the other into what all of them ask for. -/
theorem Options.readAll_ofWords {words : List String} (wellFormed : WellFormed words)
    {earlier rest : List String} (split : words = earlier ++ rest) (behind : List String) :
    (ofWords earlier []).readAll (rest ++ behind) = (ofWords words []).readAll behind := by
  induction rest generalizing earlier with
  | nil => rw [split, List.append_nil, List.nil_append]
  | cons word rest inductionHypothesis =>
    have listed : word ∈ words := by simp [split]
    have known := wellFormed.known word listed
    have notSeparator : word ≠ "--" := by
      rintro rfl
      revert known
      decide
    have fresh : word ∉ earlier := by
      have distinct := wellFormed.distinct
      rw [split] at distinct
      intro among
      exact List.disjoint_of_nodup_append distinct among List.mem_cons_self
    have single : namesFile word = true → ∀ other ∈ earlier, namesFile other = false := by
      intro file other among
      by_contra alsoFile
      have same : other = word :=
        wellFormed.only_file (by simp [split, among]) listed (by simpa using alsoFile) file
      exact fresh (same ▸ among)
    rw [List.cons_append, readAll, if_neg notSeparator, read_ofWords known fresh single]
    exact inductionHypothesis (by rw [split, List.append_assoc, List.singleton_append])

/-- A source is named, or standard input is asked for, but not both. -/
theorem Options.file_iff_ofWords {words : List String} (wellFormed : WellFormed words)
    (arguments : List String) :
    (ofWords words arguments).file?.isSome = true ↔ (ofWords words arguments).stdin ≠ true := by
  obtain ⟨source, ⟨listed, tells⟩, only⟩ := wellFormed.oneSource
  have file_iff : (ofWords words arguments).file?.isSome = true ↔
      ∃ word ∈ words, namesFile word = true := by
    simp [ofWords]
  have stdin_iff : (ofWords words arguments).stdin = true ↔ "--stdin" ∈ words := by
    simp [ofWords]
  rw [file_iff, Ne, stdin_iff]
  constructor
  · rintro ⟨word, among, file⟩ both
    have same : word = "--stdin" :=
      (only word ⟨among, .inl file⟩).trans (only "--stdin" ⟨both, .inr rfl⟩).symm
    rw [same] at file
    cases file
  · intro notStdin
    rcases tells with file | rfl
    · exact ⟨source, listed, file⟩
    · exact absurd listed notStdin

/-- A line consists of some words, and of arguments behind `--` if there are any. -/
def Written (words arguments line : List String) : Prop :=
  (line = words ∧ arguments = []) ∨ line = words ++ "--" :: arguments

/-- A well-formed line asks for what its words say. -/
theorem Request.ofArguments_of_wellFormed {words arguments line : List String}
    (wellFormed : WellFormed words) (written : Written words arguments line) :
    ofArguments line = .run (.ofWords words arguments) := by
  have understood : Options.readAll {} line = .ok (.ofWords words arguments) := by
    have start : Options.readAll {} = (Options.ofWords [] []).readAll := rfl
    rcases written with ⟨rfl, rfl⟩ | rfl
    · have read := Options.readAll_ofWords wellFormed (List.nil_append line).symm []
      rwa [List.append_nil] at read
    · rw [start, Options.readAll_ofWords wellFormed rfl]
      rfl
  have oneSource := Options.file_iff_ofWords wellFormed arguments
  rw [ofArguments, understood]
  dsimp only
  rw [if_neg]
  intro both
  rw [beq_iff_eq] at both
  rw [both] at oneSource
  exact iff_not_self oneSource

end DeclScope.CommandLine
