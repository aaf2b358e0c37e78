import RemoteAttach.Launch.File
import RemoteAttach.Proofs.Json.Moves.Value

/-! A text that is read as a launch file is nothing but tokens in order with blanks around them. -/

namespace RemoteAttach

open RemoteAttach.Json
open RemoteAttach.Json.Reader

theorem PipeArgs.takesValue_reader (room : Nat) : TakesValue (PipeArgs.reader room) := by
  refine Moves.bind (TakesValue.value room) fun value => ?_
  split
  · exact Moves.pure fun _ _ => id
  · exact Moves.failUnplaced _

/-- An object whose members `take` sorts into a draft. -/
theorem moves_draft {α σ : Type} {take : String → σ → Reader σ}
    (each : ∀ name s, TakesMember (take name s)) (start : σ) (finish : σ → α) :
    Moves (Tokens JustOpened) (foldMembers take start >>= fun d => pure (finish d))
      fun _ => Tokens Closable :=
  (Moves.foldMembers each start).bind fun _ => Moves.pure fun _ _ => id

theorem PipeOverride.takesMember_take (room : Nat) (name : String) (d : Draft) :
    TakesMember (take room name d) := by
  unfold take
  split
  · exact (TakesMember.field TakesValue.string.optional _ _).andThen _
  · exact (TakesMember.field (PipeArgs.takesValue_reader room).optional _ _).andThen _
  · exact TakesMember.skipMember.andThen _

theorem PipeOverride.takesValue_reader (room : Nat) : TakesValue (PipeOverride.reader room) := by
  refine TakesValue.record _ room (fun room => moves_draft (takesMember_take room) {} _)
    fun room => ?_
  refine (Moves.nextItem TakesValue.string.optional true).bind fun _ => ?_
  refine (Moves.nextItem (PipeArgs.takesValue_reader room).optional false).bind fun _ => ?_
  exact Moves.pure fun _ _ => id

theorem Transport.takesMember_take (room : Nat) (name : String) (d : Draft) :
    TakesMember (take room name d) := by
  have text (before : Option (Option String)) (name : String) :
      TakesMember (field name before (optional string)) :=
    TakesMember.field TakesValue.string.optional _ _
  have section_ (before : Option (Option PipeOverride)) (name : String) :
      TakesMember (field name before (optional (PipeOverride.reader room))) :=
    TakesMember.field (PipeOverride.takesValue_reader room).optional _ _
  unfold take
  split
  · exact (text _ _).andThen _
  · exact (TakesMember.field (PipeArgs.takesValue_reader room).optional _ _).andThen _
  · exact (text _ _).andThen _
  · exact (TakesMember.field (TakesValue.map TakesValue.string room) _ _).andThen _
  · exact (TakesMember.field TakesValue.boolean.optional _ _).andThen _
  · exact (text _ _).andThen _
  · exact (section_ _ _).andThen _
  · exact (section_ _ _).andThen _
  · exact (section_ _ _).andThen _
  · exact TakesMember.skipMember.andThen _

theorem Transport.takesValue_reader (room : Nat) : TakesValue (Transport.reader room) := by
  refine TakesValue.record _ room (fun room => moves_draft (takesMember_take room) {} _)
    fun room => ?_
  have text := Moves.nextItem TakesValue.string.optional
  have section_ := Moves.nextItem (PipeOverride.takesValue_reader room).optional false
  refine (text true).bind fun _ => ?_
  refine (Moves.nextItem (PipeArgs.takesValue_reader room).optional false).bind fun _ => ?_
  refine (text false).bind fun _ => ?_
  refine (Moves.nextItem (TakesValue.map TakesValue.string room) false).bind fun _ => ?_
  refine (Moves.nextItem TakesValue.boolean.optional false).bind fun _ => ?_
  refine (text false).bind fun _ => section_.bind fun _ => section_.bind fun _ =>
    section_.bind fun _ => ?_
  exact Moves.pure fun _ _ => id

theorem Configuration.takesMember_take (room : Nat) (name : String) (d : Draft) :
    TakesMember (take room name d) := by
  have text (before : Option String) (name : String) : TakesMember (field name before string) :=
    TakesMember.field TakesValue.string _ _
  have text? (before : Option (Option String)) (name : String) :
      TakesMember (field name before (optional string)) :=
    TakesMember.field TakesValue.string.optional _ _
  have value? (before : Option (Option Json)) (name : String) :
      TakesMember (field name before (optional (value room))) :=
    TakesMember.field (TakesValue.value room).optional _ _
  unfold take
  split
  · exact (text _ _).andThen _
  · exact (text _ _).andThen _
  · exact (TakesMember.field (TakesValue.string.andThen _) _ _).andThen _
  · exact (value? _ _).andThen _
  · exact (text? _ _).andThen _
  · exact (TakesMember.field (Transport.takesValue_reader room).optional _ _).andThen _
  · exact (TakesMember.field TakesValue.boolean.optional _ _).andThen _
  · exact (value? _ _).andThen _
  · exact (text? _ _).andThen _
  · exact TakesMember.colon ((TakesValue.value room).andThen _)

theorem Configuration.takesValue_reader (room : Nat) : TakesValue (Configuration.reader room) :=
  TakesValue.objectRecord _ room fun room => moves_draft (takesMember_take room) {} _

namespace LaunchFile

theorem takesMember_take (room : Nat) (name : String) (d : Draft) :
    TakesMember (take room name d) := by
  unfold take
  split
  · exact (TakesMember.field TakesValue.string.optional _ _).andThen _
  · exact (TakesMember.field (TakesValue.list Configuration.takesValue_reader room) _ _).andThen _
  · exact TakesMember.skipMember.andThen _

theorem takesValue_reader (room : Nat) : TakesValue (LaunchFile.reader room) := by
  refine TakesValue.record _ room (fun room => moves_draft (takesMember_take room) {} _)
    fun room => ?_
  refine (Moves.nextItem TakesValue.string.optional true).bind fun _ => ?_
  refine (Moves.nextItem (TakesValue.list Configuration.takesValue_reader room) false).bind
    fun _ => ?_
  exact Moves.pure fun _ _ => id

/-- A text without comments that is read as a launch file is a value's tokens in order. -/
theorem exists_tokens_of_run {text : List Char} {f : LaunchFile}
    (run : (LaunchFile.reader maxDepth).run (String.ofList text) = .ok f) :
    ∃ tokens, Spaced tokens text ∧ Complete tokens := by
  simpa using (takesValue_reader maxDepth).exists_tokens run

end LaunchFile

end RemoteAttach
