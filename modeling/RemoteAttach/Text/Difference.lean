/-! The lines in which two texts differ. A search from both ends of the texts at once finds where a
shortest way to change the one into the other passes the middle, and goes on with the parts before
and after it. Runs of changed lines are then moved as far down as the text allows, or beside a run
of the other text. -/

namespace RemoteAttach.Text.Difference

/-- A part of two texts that are compared: their lines from `left` up to `right`, and from `top` up
to `bottom`. -/
structure Area where
  left : Nat
  right : Nat
  top : Nat
  bottom : Nat

/-- The lines of two texts that are changed. -/
structure Marks where
  first : Array Bool
  second : Array Bool

/-- How far the search has come on each diagonal, from the start and from the end. A diagonal is the
difference of two places; those that have been reached lie between two bounds. -/
structure Search where
  ahead : Array Int
  behind : Array Int
  aheadLow : Int
  aheadHigh : Int
  behindLow : Int
  behindHigh : Int

/-- The place that equal lines lead to from another one, ahead of it. -/
def slide (same : Nat → Nat → Bool) (area : Area) : Nat → Int → Int → Int
  | 0, x, _ => x
  | fuel + 1, x, y =>
    if x < area.right && y < area.bottom && same x.toNat y.toNat then
      slide same area fuel (x + 1) (y + 1)
    else x

/-- The place that equal lines lead to from another one, behind it. -/
def slideBack (same : Nat → Nat → Bool) (area : Area) : Nat → Int → Int → Int
  | 0, x, _ => x
  | fuel + 1, x, y =>
    if area.left < x && area.top < y && same (x - 1).toNat (y - 1).toNat then
      slideBack same area fuel (x - 1) (y - 1)
    else x

/-- The value at a diagonal of a table in which the least diagonal stands first. -/
def onDiagonal (table : Array Int) (least d : Int) : Int :=
  table.getD (d - least).toNat 0

/-- Takes the search from the start one change further, on the diagonals from `d` down. Gives the
place where it meets the other search, if it does. -/
def stepAhead (same : Nat → Nat → Bool) (area : Area) (least : Int) (meets : Bool) :
    Nat → Int → Search → Option (Nat × Nat) × Search
  | 0, _, s => (none, s)
  | fuel + 1, d, s =>
    if d < s.aheadLow then (none, s)
    else
      let below := onDiagonal s.ahead least (d - 1)
      let above := onDiagonal s.ahead least (d + 1)
      let x := if below < above then above else below + 1
      let x := slide same area (area.right + 1) x (x - d)
      let s := { s with ahead := s.ahead.setIfInBounds (d - least).toNat x }
      if meets && s.behindLow ≤ d && d ≤ s.behindHigh && onDiagonal s.behind least d ≤ x then
        (some (x.toNat, (x - d).toNat), s)
      else stepAhead same area least meets fuel (d - 2) s

/-- Takes the search from the end one change further, on the diagonals from `d` down. Gives the
place where it meets the other search, if it does. -/
def stepBehind (same : Nat → Nat → Bool) (area : Area) (least : Int) (meets : Bool) :
    Nat → Int → Search → Option (Nat × Nat) × Search
  | 0, _, s => (none, s)
  | fuel + 1, d, s =>
    if d < s.behindLow then (none, s)
    else
      let below := onDiagonal s.behind least (d - 1)
      let above := onDiagonal s.behind least (d + 1)
      let x := if below < above then below else above - 1
      let x := slideBack same area (area.right + 1) x (x - d)
      let s := { s with behind := s.behind.setIfInBounds (d - least).toNat x }
      if meets && s.aheadLow ≤ d && d ≤ s.aheadHigh && x ≤ onDiagonal s.ahead least d then
        (some (x.toNat, (x - d).toNat), s)
      else stepBehind same area least meets fuel (d - 2) s

/-- The bounds of a search after one more change. A bound that cannot move any further turns back;
one that moves leaves a value behind that no way comes from. -/
def widen (least most none : Int) (base : Int) (low high : Int) (table : Array Int) :
    Int × Int × Array Int :=
  let put := fun (table : Array Int) (d : Int) => table.setIfInBounds (d - base).toNat none
  let (low, table) := if least < low then (low - 1, put table (low - 2)) else (low + 1, table)
  let (high, table) := if high < most then (high + 1, put table (high + 2)) else (high - 1, table)
  (low, high, table)

/-- The place where the two searches meet. -/
def meetFrom (same : Nat → Nat → Bool) (area : Area) (base : Int) (odd : Bool) :
    Nat → Search → Nat × Nat
  | 0, _ => (area.left, area.top)
  | fuel + 1, s =>
    let least : Int := (area.left : Int) - area.bottom
    let most : Int := (area.right : Int) - area.top
    let count := area.right + area.bottom + 2
    let (low, high, ahead) := widen least most (-1) base s.aheadLow s.aheadHigh s.ahead
    let s := { s with aheadLow := low, aheadHigh := high, ahead }
    match stepAhead same area base odd count high s with
    | (some place, _) => place
    | (none, s) =>
      let far : Int := area.right + area.bottom + 10
      let (low, high, behind) := widen least most far base s.behindLow s.behindHigh s.behind
      let s := { s with behindLow := low, behindHigh := high, behind }
      match stepBehind same area base (!odd) count high s with
      | (some place, _) => place
      | (none, s) => meetFrom same area base odd fuel s

/-- A place in the middle of a shortest way through an area. -/
def meet (same : Nat → Nat → Bool) (area : Area) : Nat × Nat :=
  let base : Int := (area.left : Int) - area.bottom - 2
  let size := area.right + area.bottom + 5
  let start : Int := (area.left : Int) - area.top
  let stop : Int := (area.right : Int) - area.bottom
  let table := Array.replicate size (0 : Int)
  let s : Search := {
    ahead := table.setIfInBounds (start - base).toNat area.left
    behind := table.setIfInBounds (stop - base).toNat area.right
    aheadLow := start, aheadHigh := start, behindLow := stop, behindHigh := stop }
  meetFrom same area base ((start - stop) % 2 ≠ 0) (area.right + area.bottom + 2) s

/-- The flags with those set from one place up to another. -/
def setRange (flags : Array Bool) (start stop : Nat) : Array Bool :=
  (List.range (stop - start)).foldl (fun flags n => flags.setIfInBounds (start + n) true) flags

/-- Marks the lines of an area that a shortest way changes. -/
def compareFrom (same : Nat → Nat → Bool) : Nat → Area → Marks → Marks
  | 0, _, marks => marks
  | fuel + 1, area, marks =>
    let left := (slide same area (area.right + 1) area.left area.top).toNat
    let area := { area with left, top := area.top + (left - area.left) }
    let right := (slideBack same area (area.right + 1) area.right area.bottom).toNat
    let area := { area with right, bottom := area.bottom - (area.right - right) }
    if area.left = area.right then
      { marks with second := setRange marks.second area.top area.bottom }
    else if area.top = area.bottom then
      { marks with first := setRange marks.first area.left area.right }
    else
      let (x, y) := meet same area
      compareFrom same fuel { area with left := x, top := y }
        (compareFrom same fuel { area with right := x, bottom := y } marks)

/-- The first place from another one on without a flag. -/
def up (flags : Array Bool) : Nat → Nat → Nat
  | 0, i => i
  | fuel + 1, i => if flags.getD i false then up flags fuel (i + 1) else i

/-- The last place up to another one without a flag. -/
def down (flags : Array Bool) : Nat → Nat
  | 0 => 0
  | i + 1 => if flags.getD (i + 1) false then down flags i else i + 1

/-- The place after the last one before another one that has no flag. -/
def runStart (flags : Array Bool) : Nat → Nat
  | 0 => 0
  | i + 1 => if flags.getD i false then runStart flags i else i + 1

/-- A run of changed lines that is moved: from `start` up to `stop`, beside the place `other` of the
other text. -/
structure Run where
  flags : Array Bool
  start : Nat
  stop : Nat
  other : Nat

/-- Moves a run back as far as the line before it equals its last one. -/
def back (equal : Nat → Nat → Bool) (others : Array Bool) : Nat → Run → Run
  | 0, run => run
  | fuel + 1, run =>
    if 0 < run.start && equal (run.start - 1) (run.stop - 1) then
      let flags := run.flags.setIfInBounds (run.start - 1) true
      let flags := flags.setIfInBounds (run.stop - 1) false
      back equal others fuel
        ⟨flags, runStart flags (run.start - 1), run.stop - 1, down others (run.other - 1)⟩
    else run

/-- Moves a run ahead as far as its first line equals the one after it. The last place is kept where
it stands beside a run of the other text. -/
def ahead (equal : Nat → Nat → Bool) (others : Array Bool) (size : Nat) :
    Nat → Run → Nat → Run × Nat
  | 0, run, beside => (run, beside)
  | fuel + 1, run, beside =>
    if run.stop < size && equal run.start run.stop then
      let flags := run.flags.setIfInBounds run.start false
      let flags := flags.setIfInBounds run.stop true
      let stop := up flags size (run.stop + 1)
      let other := up others others.size (run.other + 1)
      let beside := if others.getD (run.other + 1) false then stop else beside
      ahead equal others size fuel ⟨flags, run.start + 1, stop, other⟩ beside
    else (run, beside)

/-- Moves a run back and ahead until it no longer grows. -/
def settle (equal : Nat → Nat → Bool) (others : Array Bool) (size : Nat) :
    Nat → Run → Run × Nat
  | 0, run => (run, size)
  | fuel + 1, run =>
    let length := run.stop - run.start
    let run := back equal others (size + 1) run
    let beside := if 0 < run.other && others.getD (run.other - 1) false then run.stop else size
    let (run, beside) := ahead equal others size (size + 1) run beside
    if run.stop - run.start = length then (run, beside) else settle equal others size fuel run

/-- Moves a run back to a place. -/
def retreat (others : Array Bool) (place : Nat) : Nat → Run → Run
  | 0, run => run
  | fuel + 1, run =>
    if place < run.stop then
      let flags := run.flags.setIfInBounds (run.start - 1) true
      let flags := flags.setIfInBounds (run.stop - 1) false
      retreat others place fuel
        ⟨flags, run.start - 1, run.stop - 1, down others (run.other - 1)⟩
    else run

/-- Moves the runs of changed lines of a text, from a place on that stands beside the place `j` of
the other text. -/
def shiftFrom (equal : Nat → Nat → Bool) (others : Array Bool) (size : Nat) :
    Nat → Nat → Nat → Array Bool → Array Bool
  | 0, _, _, flags => flags
  | fuel + 1, i, j, flags =>
    if size ≤ i then flags
    else if !flags.getD i false then
      shiftFrom equal others size fuel (i + 1) (up others others.size j + 1) flags
    else
      let run : Run := ⟨flags, i, up flags size (i + 1), up others others.size j⟩
      let (run, beside) := settle equal others size (size + 1) run
      let run := retreat others beside (size + 1) run
      shiftFrom equal others size fuel run.stop run.other run.flags

/-- The lines of a text, with changed runs moved to where they are shown. -/
def shift (equal : Nat → Nat → Bool) (others flags : Array Bool) : Array Bool :=
  shiftFrom equal others flags.size (4 * flags.size + 4) 0 0 flags

/-- The places of the lines that also stand in another text. -/
def shared {α : Type} [BEq α] (lines others : Array α) : Array Nat :=
  ((List.range lines.size).filter fun i => lines[i]?.any others.contains).toArray

/-- The flags of the lines of a text, of which those that stand at some places have flags and all
others are changed. -/
def spread (size : Nat) (places : Array Nat) (flags : Array Bool) : Array Bool :=
  (places.zip flags).foldl (fun all (place, flag) => all.setIfInBounds place flag)
    (Array.replicate size true)

/-- The changed lines of two texts. Lines that stand in only one of them are changed in any case. -/
def marks {α : Type} [BEq α] (first second : Array α) : Marks :=
  let firstPlaces := shared first second
  let secondPlaces := shared second first
  let same := fun (x y : Nat) =>
    match firstPlaces[x]?, secondPlaces[y]? with
    | some i, some j => (first[i]?).isSome && first[i]? == second[j]?
    | _, _ => false
  let start : Marks :=
    ⟨Array.replicate firstPlaces.size false, Array.replicate secondPlaces.size false⟩
  let area : Area := ⟨0, firstPlaces.size, 0, secondPlaces.size⟩
  let found := compareFrom same (firstPlaces.size + secondPlaces.size + 2) area start
  let firstFlags := spread first.size firstPlaces found.first
  let secondFlags := spread second.size secondPlaces found.second
  let equalIn := fun (lines : Array α) (i j : Nat) => lines[i]? == lines[j]?
  let firstFlags := shift (equalIn first) secondFlags firstFlags
  ⟨firstFlags, shift (equalIn second) firstFlags secondFlags⟩

/-- A change: some lines of the first text from a place on become some lines of the second one. -/
structure Change where
  first : Nat
  removed : Nat
  second : Nat
  added : Nat

/-- The changes from two places on. -/
def changesFrom (m : Marks) : Nat → Nat → Nat → List Change
  | 0, _, _ => []
  | fuel + 1, i, j =>
    if m.first.size ≤ i && m.second.size ≤ j then []
    else
      let stop := up m.first m.first.size i
      let other := up m.second m.second.size j
      if stop = i && other = j then changesFrom m fuel (i + 1) (j + 1)
      else ⟨i, stop - i, j, other - j⟩ :: changesFrom m fuel stop other

/-- How many lines at the start of two texts are the same. -/
def sharedStart {α : Type} [BEq α] (first second : List α) : Nat :=
  ((first.zip second).takeWhile fun (x, y) => x == y).length

/-- How many lines at the start and at the end of two texts are the same, less those that stay open
to changes that are moved. -/
def fixedLines {α : Type} [BEq α] (horizon : Nat) (first second : Array α) : Nat × Nat :=
  let before := sharedStart first.toList second.toList - horizon
  let fromEnd := fun (lines : Array α) => (lines.toList.drop before).reverse
  (before, sharedStart (fromEnd first) (fromEnd second) - horizon)

/-- The changes between two texts, given as lines, of which some at the start and some at the end
are known to be the same. -/
def changes {α : Type} [BEq α] (before after : Nat) (first second : Array α) : List Change :=
  let middle := fun (lines : Array α) => lines.extract before (lines.size - after)
  let found := changesFrom (marks (middle first) (middle second)) (first.size + second.size + 1) 0 0
  found.map fun c => { c with first := c.first + before, second := c.second + before }

end RemoteAttach.Text.Difference
