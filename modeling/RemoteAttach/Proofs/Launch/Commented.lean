import Mathlib
import RemoteAttach.Launch.File
import RemoteAttach.Proofs.Json.Alike.Value
import RemoteAttach.Proofs.Json.Commented

/-! Launch files with the same tokens are the same launch file, whatever blanks and comments stand
between the tokens. -/

namespace RemoteAttach

open RemoteAttach.Json
open RemoteAttach.Json.Reader

theorem PipeArgs.steady_reader (room : Nat) : Steady (PipeArgs.reader room) := by
  refine fun n => (Steady.value room n).bind fun value => ?_
  split
  · exact Alike.pure fun _ _ => id
  · exact Alike.failUnplaced _

theorem PipeOverride.steady_take (room : Nat) (name : String) (d : Draft) :
    Steady (take room name d) := by
  unfold take
  split
  · exact (Steady.field Steady.string.optional _ _).andThen _
  · exact (Steady.field (PipeArgs.steady_reader room).optional _ _).andThen _
  · exact Steady.skipMember.andThen _

theorem PipeOverride.steady_reader (room : Nat) : Steady (PipeOverride.reader room) := by
  refine Steady.record _ room (fun room => ?_) fun room => ?_
  · exact (SteadyBody.foldMembers (steady_take room) {}).bind fun _ => SteadyBody.pure _
  · refine (SteadyBody.nextItem Steady.string.optional true).bind fun _ => ?_
    refine (SteadyBody.nextItem (PipeArgs.steady_reader room).optional false).bind fun _ => ?_
    exact SteadyBody.pure _

theorem Transport.steady_take (room : Nat) (name : String) (d : Draft) :
    Steady (take room name d) := by
  have text (before : Option (Option String)) (name : String) :
      Steady (field name before (optional string)) := Steady.field Steady.string.optional _ _
  have section_ (before : Option (Option PipeOverride)) (name : String) :
      Steady (field name before (optional (PipeOverride.reader room))) :=
    Steady.field (PipeOverride.steady_reader room).optional _ _
  unfold take
  split
  · exact (text _ _).andThen _
  · exact (Steady.field (PipeArgs.steady_reader room).optional _ _).andThen _
  · exact (text _ _).andThen _
  · exact (Steady.field (Steady.map Steady.string room) _ _).andThen _
  · exact (Steady.field Steady.boolean.optional _ _).andThen _
  · exact (text _ _).andThen _
  · exact (section_ _ _).andThen _
  · exact (section_ _ _).andThen _
  · exact (section_ _ _).andThen _
  · exact Steady.skipMember.andThen _

theorem Transport.steady_reader (room : Nat) : Steady (Transport.reader room) := by
  refine Steady.record _ room (fun room => ?_) fun room => ?_
  · exact (SteadyBody.foldMembers (steady_take room) {}).bind fun _ => SteadyBody.pure _
  · have text := SteadyBody.nextItem Steady.string.optional
    have section_ := SteadyBody.nextItem (PipeOverride.steady_reader room).optional false
    refine (text true).bind fun _ => ?_
    refine (SteadyBody.nextItem (PipeArgs.steady_reader room).optional false).bind fun _ => ?_
    refine (text false).bind fun _ => ?_
    refine (SteadyBody.nextItem (Steady.map Steady.string room) false).bind fun _ => ?_
    refine (SteadyBody.nextItem Steady.boolean.optional false).bind fun _ => ?_
    refine (text false).bind fun _ => section_.bind fun _ => section_.bind fun _ =>
      section_.bind fun _ => ?_
    exact SteadyBody.pure _

theorem Configuration.steady_take (room : Nat) (name : String) (d : Draft) :
    Steady (take room name d) := by
  have text (before : Option String) (name : String) : Steady (field name before string) :=
    Steady.field Steady.string _ _
  have text? (before : Option (Option String)) (name : String) :
      Steady (field name before (optional string)) := Steady.field Steady.string.optional _ _
  have value? (before : Option (Option Json)) (name : String) :
      Steady (field name before (optional (value room))) :=
    Steady.field (Steady.value room).optional _ _
  unfold take
  split
  · exact (text _ _).andThen _
  · exact (text _ _).andThen _
  · exact (Steady.field (Steady.string.andThen _) _ _).andThen _
  · exact (value? _ _).andThen _
  · exact (text? _ _).andThen _
  · exact (Steady.field (Transport.steady_reader room).optional _ _).andThen _
  · exact (Steady.field Steady.boolean.optional _ _).andThen _
  · exact (value? _ _).andThen _
  · exact (text? _ _).andThen _
  · exact Steady.bind (fun _ => Alike.colon) fun _ => ((Steady.value room).andThen _).body

theorem Configuration.steady_reader (room : Nat) : Steady (Configuration.reader room) :=
  Steady.objectRecord _ room fun room =>
    (SteadyBody.foldMembers (steady_take room) {}).bind fun _ => SteadyBody.pure _

namespace LaunchFile

theorem steady_take (room : Nat) (name : String) (d : Draft) : Steady (take room name d) := by
  unfold take
  split
  · exact (Steady.field Steady.string.optional _ _).andThen _
  · exact (Steady.field (Steady.list Configuration.steady_reader room) _ _).andThen _
  · exact Steady.skipMember.andThen _

theorem steady_reader (room : Nat) : Steady (LaunchFile.reader room) := by
  refine Steady.record _ room (fun room => ?_) fun room => ?_
  · exact (SteadyBody.foldMembers (steady_take room) {}).bind fun _ => SteadyBody.pure _
  · refine (SteadyBody.nextItem Steady.string.optional true).bind fun _ => ?_
    refine (SteadyBody.nextItem (Steady.list Configuration.steady_reader room) false).bind
      fun _ => ?_
    exact SteadyBody.pure _

/-- Two texts of the same tokens are read as the same launch file, or not for the same coarse
cause. -/
theorem run_reader {tokens : List Token} {first second : List Char}
    (apart : tokens.IsChain Token.Apart) (h1 : Spaced tokens first) (h2 : Spaced tokens second) :
    ((LaunchFile.reader maxDepth).run (String.ofList first)).mapError (·.cause.coarse) =
      ((LaunchFile.reader maxDepth).run (String.ofList second)).mapError (·.cause.coarse) :=
  (steady_reader maxDepth).run apart (by simpa using h1) (by simpa using h2)

theorem eq_ok_of_mapError {α ε δ : Type} {r : Except ε α} {g : ε → δ} {x : α}
    (same : r.mapError g = .ok x) : r = .ok x := by
  cases r with
  | error e => cases same
  | ok y => exact congrArg Except.ok (Except.ok.inj same)

end LaunchFile

/-- An error without its place, which is a coarse one if it is about JSON. -/
def LaunchError.coarse : LaunchError → LaunchError
  | json e => json { cause := e.cause.coarse, position := {} }
  | e => e

/-- Stripping a document deletes its comments and extra commas and nothing else, and leaves plain
JSON of the same tokens. The document is read as its tokens are with nothing between them: as the
same launch file, or not for the same cause. -/
theorem LaunchFile.parse_document (d : Commented.Document) :
    Commented.strip (String.ofList d.text) = String.ofList d.plain ∧
      Spaced d.tokens d.plain ∧
      (LaunchFile.parse (String.ofList d.text)).mapError LaunchError.coarse =
        ((LaunchFile.reader maxDepth).run (String.ofList d.bare)).mapError
          fun e => LaunchError.coarse (.json e) := by
  have stripped : Commented.strip (String.ofList d.text) = String.ofList d.plain := by
    rw [Commented.strip, String.toList_ofList, d.plainText_text]
  have spaced : Spaced d.tokens d.plain := Commented.spaced_plain d.pieces
  have same := run_reader d.isChain_tokens spaced (Commented.spaced_bare d.tokens)
  refine ⟨stripped, spaced, ?_⟩
  rw [LaunchFile.parse, stripped, Commented.Document.bare]
  generalize (LaunchFile.reader maxDepth).run (String.ofList d.plain) = x at same ⊢
  generalize (LaunchFile.reader maxDepth).run (String.ofList (d.tokens.flatMap Token.text)) = y
    at same ⊢
  cases x <;> cases y <;> simp_all [Except.mapError, LaunchError.coarse]

open Commented in
/-- Comment marks and a comma inside a name, extra commas before two brackets, a comment between a
name and its colon, and a comment that the end of the text ends. -/
theorem LaunchFile.parse_document_commas :
    let word (text : String) : List LiteralPart := text.toList.map fun c =>
      if plain : c ≠ '"' ∧ c ≠ '\\' then .char c plain else .escape c
    let space : Filler := .blank ' ' (by decide)
    let label (text : String) : Label .object := (⟨word text, [], [space]⟩ : Name)
    let first : Tree := .full .object
      (.more [] (label "name") (.literal (word "a//,]\"")) []
        (.more [space] (⟨word "type", [.block "\"".toList (by decide)], []⟩ : Name)
          (.literal (word "t")) []
          (.last [space] (label "request") (.literal (word "attach")) [] (some [space]))))
    let d : Document := {
      before := [.line "[".toList (by decide)]
      value := .full .object (.last [] (label "configurations")
        (.full .array (.last [] () first [] (some []))) [] none)
      after := [space], tail := some "x".toList, tail_one := by decide }
    let plain := "\n\x7b\"configurations\": [\x7b\"name\": \"a//,]\\\"\", \"type\":\"t\"," ++
      " \"request\": \"attach\" \x7d]\x7d "
    String.ofList d.plain = plain ∧ Commented.strip (String.ofList d.text) = plain ∧
      ∃ file, LaunchFile.parse (String.ofList d.text) = .ok file ∧
        file.configurations.map (·.name) = ["a//,]\""] := by
  intro word space label first d plain
  have plain_eq : String.ofList d.plain = plain := by decide +kernel
  obtain ⟨stripped, -, parsed⟩ := parse_document d
  refine ⟨plain_eq, stripped.trans plain_eq, ?_⟩
  have named : ((LaunchFile.reader maxDepth).run (String.ofList d.bare)).toOption.map
      (·.configurations.map (·.name)) = some ["a//,]\""] := by decide +kernel
  cases read : (LaunchFile.reader maxDepth).run (String.ofList d.bare) with
  | error e =>
    rw [read] at named
    cases named
  | ok file =>
    rw [read] at named parsed
    exact ⟨file, eq_ok_of_mapError parsed, Option.some.inj named⟩

end RemoteAttach
