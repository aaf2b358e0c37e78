import RemoteAttach.Shell.Expand

/-! Processes in the background. Such a process is run when something waits for it, or when the time
that has passed lets it come to its end; until then it only is on the list of the shell. -/

namespace RemoteAttach.Shell.Job

open Act

/-- Puts a statement into the background. -/
def start (script : Statement) : Act Unit := do
  let s ← get
  let number := State.shellNumber + 1 + s.started
  let inner := s.openStream 0 .sink
  let process := { s.toProcess with
    streams := inner.streams, isSubshell := true, tested := false, nesting := s.nesting
    reached := s.ownReached.getD 1
    traps := s.traps.filter (·.2.isEmpty) }
  let (place, jobs) := s.nextPlace
  let job : Job := { number, process, script, began := s.clock, place := some place }
  set { s with
    channels := inner.channels
    jobs := jobs ++ [job]
    started := s.started + 1
    lastStarted := some number
    status := 0 }

/-- Runs a process of the background up to its end. If that is beyond the time `limit`, what it has
done remains or is taken back, and it has no status yet. -/
def run (r : Runner) (limit : Option Nat) (keep : Bool) (job : Job) : Act Unit := do
  let before ← get
  let limit := match limit, before.deadline with
    | some a, some b => some (min a b)
    | a, b => a.or b
  set { before with toProcess := job.process, jobs := [], clock := job.began, deadline := limit }
  let outcome ← observe (r.statements [job.script])
  let s ← get
  let back := fun (s : State) (jobs : List Job) =>
    { s with toProcess := before.toProcess, jobs := jobs, deadline := before.deadline }
  match outcome with
  | .error .endless => throw .endless
  | .error .late =>
    if keep then set { back s before.jobs with clock := before.clock }
    else set before
    if before.deadline.any fun t => limit.any (t ≤ ·) then throw .late
  | outcome =>
    concludeProcess outcome
    let s ← get
    let jobs := (before.jobs.map fun other =>
      if other.number = job.number then { other with status := some s.status } else other) ++
      s.jobs.filter (·.status.isNone)
    set { back s jobs with clock := max before.clock s.clock }

/-- The time at which a process of the background comes to its end, if that is before a time. -/
def ending (r : Runner) (limit : Option Nat) (job : Job) : Act (Option Nat) := fun before =>
  let start := { before with
    toProcess := job.process, jobs := [], clock := job.began
    deadline := match limit, before.deadline with
      | some a, some b => some (min a b)
      | a, b => a.or b }
  match r.statements [job.script] start with
  | (.error .late, _) | (.error .endless, _) => (.ok none, before)
  | (_, s) => (.ok (some s.clock), before)

/-- The processes of the background that come to their end before a time, the earliest one first.
Those that do not come last. -/
def byEnding (r : Runner) (limit : Option Nat) (jobs : List Job) : Act (List Job) := do
  if jobs.length < 2 then pure jobs
  else
    let ends ← jobs.mapM fun job => do pure (job, ← ending r limit job)
    let (sooner, later) := ends.partition (·.2.isSome)
    pure ((sooner.mergeSort fun a b => a.2.getD 0 ≤ b.2.getD 0) ++ later |>.map (·.1))

/-- Runs all processes of the background. -/
def runAll (r : Runner) : Act Unit :=
  repeatWhile (fun (rounds : Nat) => do
    match (← get).jobs.filter (·.status.isNone) with
    | [] => pure none
    | waiting =>
      forAll (← byEnding r none waiting) (run r none true)
      pure (if rounds = 0 then none else some (rounds - 1))) 10000

/-- Runs the processes of the background that come to their end before a time. -/
def runUntil (r : Runner) (limit : Nat) : Act Unit := do
  let waiting := (← get).jobs.filter fun job => job.status.isNone && job.began < limit
  forAll (← byEnding r (some limit) waiting) (run r (some limit) false)

/-- Ends a process of the background by a signal, and tells whether there is one. -/
def stop (r : Runner) (number signal : Nat) : Act Bool := do
  let s ← get
  match s.jobs.find? fun job => job.number = number && !job.awaited with
  | none => pure false
  | some job =>
    if job.status.isNone && signal ≠ 0 then
      if job.began < s.clock then run r (some s.clock) true job
      modify fun s => { s with jobs := s.jobs.map fun other =>
        if other.number = number then { other with status := other.status.or (some (128 + signal)) }
        else other }
    pure true

/-- Waits for a process of the background, and gives its status if there is one. -/
def await (r : Runner) (number : Nat) : Act (Option Nat) := do
  match (← get).jobs.find? (·.number = number) with
  | none => pure none
  | some job =>
    if job.status.isNone then run r none true job
    modify fun s => { s with jobs := s.jobs.map fun other =>
      if other.number = number then { other with awaited := true } else other }
    pure (((← get).jobs.find? (·.number = number)).bind (·.status))

/-- The processes on the list of the shell, the last one first. -/
def listed (s : State) : List Job :=
  (s.jobs.filter (·.place.isSome)).reverse

/-- The process that a text means which begins with a percent sign, or why there is none. -/
def find (s : State) (text : String) : Except String Job :=
  let all := listed s
  let missing := match s.dialect with
    | .dash => "No such job: " ++ text
    | .bash => text ++ ": no such job"
  let nth := fun (n : Nat) (words : String) =>
    match all[n]? with
    | some job => .ok job
    | none => .error (if s.dialect = .dash then words else missing)
  match text.toList with
  | '%' :: rest =>
    match rest with
    | [] | ['%'] | ['+'] => nth 0 "No current job"
    | ['-'] => nth 1 "No previous job"
    | digits =>
      match (String.ofList digits).toNat? with
      | some n =>
        match all.find? (·.place = some n) with
        | some job => .ok job
        | none => .error missing
      | none => .error missing
  | _ => .error missing

/-- The number of processes that pipes of a statement join. -/
def width : Statement → Nat
  | .pipeline _ commands => commands.length
  | _ => 1

/-- The line for a process on the list. `mark` tells whether it is the last one, or the one before
that. -/
def line (mark : Char) (withNumber : Bool) (job : Job) : String :=
  let state := match job.status with
    | none => "Running"
    | some 0 => "Done"
    | some n =>
      match (if 128 < n then Act.signalRemark (n - 128) else none) with
      | some words => words
      | none => "Done(" ++ toString n ++ ")"
  let start := "[" ++ toString (job.place.getD 0) ++ "] " ++ mark.toString ++ " "
  let text := start ++ (if withNumber then toString job.number ++ " " else "") ++ state
  text ++ String.ofList (List.replicate (33 - text.length) ' ') ++
    String.join (List.replicate (width job.script - 1) " | ")

/-- Processes with their marks, of which some that still run come first. One that has come to its
end is off the list before the next one is told. -/
def marks (running : Nat) : List Job → List (Job × Char)
  | [] => []
  | job :: rest =>
    let mark := if running = 0 then '+' else if running = 1 then '-' else ' '
    (job, mark) :: marks (if job.status.isNone then running + 1 else running) rest

/-- Tells processes on the list, all of them if none are named, and takes those off that have come
to their end. -/
def tell (r : Runner) (numbers long : Bool) (names : List String) : Act Unit := do
  runUntil r (← get).clock
  let s ← get
  let marked := marks 0 (listed s)
  let wanted ← if names.isEmpty then pure marked
    else names.mapM fun name =>
      match find s name with
      | .ok job => pure ((marked.find? (·.1.number = job.number)).getD (job, ' '))
      | .error words => do
        complain words
        finish 2
        throw .failure
  let lines := wanted.map fun (job, mark) =>
    if numbers then toString job.number else line mark long job
  let ended := wanted.filterMap fun (job, _) => if job.status.isSome then some job.number else none
  set { s with jobs := s.jobs.filter fun job => !ended.contains job.number }
  finish 0
  emit 1 (lines.flatMap fun text => text.toList ++ ['\n'])

end RemoteAttach.Shell.Job
