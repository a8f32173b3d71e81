import BucketStore.Console.Cell

/-!
Clusters: characters that are shown as one. A joiner draws the next character into the cluster
before it, the mark of emoji may widen a character, and characters without cells belong to what
stands before them. Texts are measured and cut by clusters.
-/

namespace BucketStore.Console

def joiner : Char := '\u200d'

/-- The mark behind a character that is to be shown as an emoji. -/
def emojiMark : Char := '\ufe0f'

/-- The cells that the mark of emoji adds to the character it stands behind. -/
def growth (base? : Option Char) : Nat :=
  if base?.any widening.contains then 1 else 0

/-- The cells of a text behind a character with cells of its own. -/
def widthBehind (base? : Option Char) : List Char → Nat
  | [] => 0
  | c :: rest =>
    if c == joiner then
      match rest with
      | [] => 0
      | _ :: more => widthBehind base? more
    else if c == emojiMark then growth base? + widthBehind none rest
    else cells c + widthBehind (if cells c = 0 then base? else some c) rest

def width (cs : List Char) : Nat :=
  widthBehind none cs

structure Cluster where
  chars : List Char
  /-- The cells of the cluster. -/
  size : Nat

namespace Cluster

def add (k : Cluster) (chars : List Char) (size : Nat) : Cluster :=
  ⟨k.chars ++ chars, k.size + size⟩

/-- The clusters of a text whose first cluster has begun. -/
def behind (k : Cluster) (base? : Option Char) : List Char → List Cluster
  | [] => [k]
  | c :: rest =>
    if c == joiner then
      match rest with
      | [] => [k.add [c] 0]
      | d :: more => behind (k.add [c, d] 0) base? more
    else if c == emojiMark then behind (k.add [c] (growth base?)) none rest
    else if cells c = 0 then behind (k.add [c] 0) base? rest
    else k :: behind ⟨[c], cells c⟩ (some c) rest

/-- The clusters of a text. The first one may have no cells. -/
def ofText : List Char → List Cluster
  | [] => []
  | c :: rest => behind ⟨[c], cells c⟩ (if cells c = 0 then none else some c) rest

private theorem flatMap_chars_behind (k : Cluster) (base? : Option Char) (cs : List Char) :
    (behind k base? cs).flatMap (·.chars) = k.chars ++ cs := by
  fun_induction behind k base? cs <;> simp_all [add]

/-- Clusters lose nothing of a text. -/
theorem flatMap_chars_ofText (cs : List Char) : (ofText cs).flatMap (·.chars) = cs := by
  cases cs with
  | nil => rfl
  | cons c rest => simp [ofText, flatMap_chars_behind]

/-- The clusters at the beginning that take `total` cells. One across the border gives way to a
space. -/
def cut (total : Nat) : List Cluster → List Char
  | [] => []
  | k :: rest =>
    if total = 0 then []
    else if k.size ≤ total then k.chars ++ cut (total - k.size) rest
    else [' ']

/-- Pieces that take at most `total` cells; a first cluster that is too wide leaves an empty piece
before it. The pieces begin with what has been gathered. -/
def chop (total : Nat) (gathered : List Char) (used : Nat) : List Cluster → List (List Char)
  | [] => [gathered]
  | k :: rest =>
    if used + k.size > total then gathered :: chop total k.chars k.size rest
    else chop total (gathered ++ k.chars) (used + k.size) rest

private theorem flatten_chop (total : Nat) (gathered : List Char) (used : Nat) (ks : List Cluster) :
    (chop total gathered used ks).flatten = gathered ++ ks.flatMap (·.chars) := by
  induction ks generalizing gathered used with
  | nil => simp [chop]
  | cons k rest ih =>
    unfold chop
    split <;> simp [ih]

end Cluster

def spaces (n : Nat) : List Char :=
  List.replicate n ' '

theorem widthBehind_space (base? : Option Char) (cs : List Char) :
    widthBehind base? (' ' :: cs) = 1 + widthBehind (some ' ') cs := by
  have one : cells ' ' = 1 := rfl
  conv => lhs; unfold widthBehind
  simp [one, joiner, emojiMark]

theorem widthBehind_spaces (base? : Option Char) (n : Nat) :
    widthBehind base? (spaces n) = n := by
  induction n generalizing base? with
  | zero => rfl
  | succ n ih =>
    have step : spaces (n + 1) = ' ' :: spaces n := List.replicate_succ
    rw [step, widthBehind_space, ih, Nat.add_comm]

theorem width_spaces (n : Nat) : width (spaces n) = n :=
  widthBehind_spaces none n

def fill (total : Nat) (cs : List Char) : List Char :=
  cs ++ spaces (total - width cs)

/-- Cut a text off, or fill it up, so that it takes `total` cells. -/
def fit (total : Nat) (cs : List Char) : List Char :=
  if total = 0 then []
  else if width cs ≤ total then fill total cs
  else Cluster.cut total (Cluster.ofText cs)

/-- Cut a word into pieces that take at most `total` cells. -/
def chop (total : Nat) (cs : List Char) : List (List Char) :=
  Cluster.chop total [] 0 (Cluster.ofText cs)

/-- Chopping loses nothing of a word. -/
theorem flatten_chop (total : Nat) (cs : List Char) : (chop total cs).flatten = cs := by
  simp [chop, Cluster.flatten_chop, Cluster.flatMap_chars_ofText]

end BucketStore.Console
