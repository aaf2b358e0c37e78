import Mathlib
import RemoteAttach.Proofs.Json.Separated.Tokens
import RemoteAttach.Proofs.Launch.Accepted
import RemoteAttach.Proofs.Launch.Commented

/-! Which of the texts that are read as launch files are JSON with comments, in which comments divide
tokens and only a comma after a value may come before a closing bracket. -/

namespace RemoteAttach

open RemoteAttach.Json
open RemoteAttach.Json.Reader (maxDepth)
open RemoteAttach.Json.Commented

/-- Tokens in order are apart. -/
theorem isChain_apart {tokens : List Token} (chain : tokens.IsChain Token.Adjoin) :
    tokens.IsChain Token.Apart := by
  refine chain.imp fun first second adjoin number => ?_
  cases first with
  | number n =>
    have noValue : second.beginsValue = false := adjoin
    cases second <;> first | rfl | cases noValue
  | _ => cases number

namespace LaunchFile

/-- The text is JSON with comments for the launch file: each of its comments is ended, and with a
blank for each comment and without the commas that come after values and before closing brackets it
is read, as plain JSON, as the launch file. -/
structure IsCommentedJson (text : String) (f : LaunchFile) : Prop where
  ended : Commented.ended (partsOf text.toList) = true
  read : (LaunchFile.reader maxDepth).run (separated text) = .ok f

/-- A text that is read carries tokens in order once a blank stands for each comment. -/
theorem apart_of_run {text : String} {f : LaunchFile}
    (run : (LaunchFile.reader maxDepth).run (separated text) = .ok f) :
    fuses (keptParts text) = false ∧ endsInComma (keptParts text) = false := by
  obtain ⟨tokens, spaced, complete⟩ := exists_tokens_of_run run
  have lexed := (lexed_partsOf text.toList).withoutTrailing false
  exact (Carries.of_spaced _ lexed (.inl rfl) spaced).apart complete.1

/-- A text that is read without its comments is read alike with blanks for them, if they divide no
word and no comma is left before a closing bracket. -/
theorem run_separated_of_parse {text : String} {f : LaunchFile}
    (read : LaunchFile.parse text = .ok f) (apart : fuses (keptParts text) = false)
    (commas : endsInComma (keptParts text) = false) :
    (LaunchFile.reader maxDepth).run (separated text) = .ok f := by
  have stripped : strip text = String.ofList ((keptParts text).flatMap (Part.text [])) := by
    rw [strip, plainText_eq, keptParts, withoutTrailing_eq commas]
  have run : (LaunchFile.reader maxDepth).run (strip text) = .ok f := eq_ok_of_mapError read
  rw [stripped] at run
  obtain ⟨tokens, spaced, complete⟩ := exists_tokens_of_run run
  have lexed := (lexed_partsOf text.toList).withoutTrailing false
  have carries : Carries (keptParts text) tokens :=
    Carries.of_spaced _ lexed (.inr ⟨rfl, apart⟩) spaced
  have blanks : Spaced tokens ((keptParts text).flatMap (Part.text [' '])) :=
    carries.spaced (List.forall_mem_singleton.mpr (by decide))
  have same := run_reader (isChain_apart complete.1) spaced blanks
  rw [run] at same
  exact eq_ok_of_mapError same.symm

/-- A text that is read as a launch file is JSON with comments for it exactly if its block comments
are ended, no comment divides a word, and no comma that comes after no value comes before a closing
bracket. -/
theorem isCommentedJson_iff {text : String} {f : LaunchFile}
    (read : LaunchFile.parse text = .ok f) :
    IsCommentedJson text f ↔ Commented.ended (partsOf text.toList) = true ∧
      fuses (keptParts text) = false ∧ endsInComma (keptParts text) = false :=
  ⟨fun h => ⟨h.ended, apart_of_run h.read⟩,
    fun ⟨ended, apart, commas⟩ => ⟨ended, run_separated_of_parse read apart commas⟩⟩

theorem isCommentedJson_of_comments :
    LaunchFile.parse
        "\x7b\"configurations\": [/* ] */ \x7b\"processId\": 12 /**/ , \x7d,// last\n]\x7d" =
        .ok ⟨none, [{ processId := some (.number (.integer 12)) }]⟩ ∧
      IsCommentedJson
        "\x7b\"configurations\": [/* ] */ \x7b\"processId\": 12 /**/ , \x7d,// last\n]\x7d"
        ⟨none, [{ processId := some (.number (.integer 12)) }]⟩ := by
  have read : LaunchFile.parse
      "\x7b\"configurations\": [/* ] */ \x7b\"processId\": 12 /**/ , \x7d,// last\n]\x7d" =
        .ok ⟨none, [{ processId := some (.number (.integer 12)) }]⟩ := by cbv
  exact ⟨read, (isCommentedJson_iff read).mpr ⟨by cbv, by cbv, by cbv⟩⟩

/-- A comment inside a number, a comma after no value and a comment without its end: texts that are
read without being JSON with comments. -/
theorem exists_not_isCommentedJson :
    (∃ f, LaunchFile.parse
        "\x7b\"configurations\":[\x7b\"request\":\"attach\",\"processId\":1/**/2\x7d]\x7d" = .ok f ∧
      f.configurations.map (·.processId) = [some (.number (.integer 12))] ∧
      ¬ IsCommentedJson
        "\x7b\"configurations\":[\x7b\"request\":\"attach\",\"processId\":1/**/2\x7d]\x7d" f) ∧
    (∃ f, LaunchFile.parse "\x7b\"configurations\":[,]\x7d" = .ok f ∧
      ¬ IsCommentedJson "\x7b\"configurations\":[,]\x7d" f) ∧
    ∃ f, LaunchFile.parse "\x7b\"configurations\":[]\x7d /* no end" = .ok f ∧
      ¬ IsCommentedJson "\x7b\"configurations\":[]\x7d /* no end" f := by
  refine ⟨⟨⟨none, [{ request := .attach, processId := some (.number (.integer 12)) }]⟩,
    by cbv, rfl, fun h => ?_⟩, ⟨⟨none, []⟩, by cbv, fun h => ?_⟩, ⟨none, []⟩, by cbv, fun h => ?_⟩
  · have stops : (LaunchFile.reader maxDepth).run (separated
        "\x7b\"configurations\":[\x7b\"request\":\"attach\",\"processId\":1/**/2\x7d]\x7d") =
        .error ⟨.expectedMemberEnd, ⟨1, 54⟩⟩ := by cbv
    have read := h.read
    rw [stops] at read
    cases read
  · have stops : (LaunchFile.reader maxDepth).run (separated "\x7b\"configurations\":[,]\x7d") =
        .error ⟨.expectedValue, ⟨1, 20⟩⟩ := by cbv
    have read := h.read
    rw [stops] at read
    cases read
  · have open_ : Commented.ended (partsOf "\x7b\"configurations\":[]\x7d /* no end".toList) = false := by
      cbv
    have ended := h.ended
    rw [open_] at ended
    cases ended

end LaunchFile

end RemoteAttach
