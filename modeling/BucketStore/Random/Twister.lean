namespace BucketStore

def Twister.size : Nat := 624

structure Twister where
  words : Vector UInt32 Twister.size
  /-- The next word to hand out; all are used up at the end. -/
  position : Nat := Twister.size

namespace Twister

abbrev Words := Vector UInt32 size

private theorem size_pos : 0 < size := by decide

/-- The word at a place, counted around. -/
def word (ws : Words) (i : Nat) : UInt32 :=
  ws.get ⟨i % size, Nat.mod_lt _ size_pos⟩

/-- Put a word at a place, counted around. -/
def putWord (ws : Words) (i : Nat) (w : UInt32) : Words :=
  ws.set (i % size) w (Nat.mod_lt _ size_pos)

/-- What one word gives to the next one when a state is filled. -/
def carry (w factor : UInt32) : UInt32 :=
  (w ^^^ (w >>> 30)) * factor

/-- Fill the places from `i` on, each from the one before. -/
def fillFrom (ws : Words) (i : Nat) : Nat → Words
  | 0 => ws
  | count + 1 =>
    let w := carry (word ws (i - 1)) 1812433253 + UInt32.ofNat i
    fillFrom (putWord ws i w) (i + 1) count

/-- The state that seeds are mixed into. -/
def blank : Words :=
  fillFrom (Vector.replicate size 19650218) 1 (size - 1)

/-- The place after `i`. The first place is passed over: it takes over the last word. -/
def advance (ws : Words) (i : Nat) : Words × Nat :=
  if i + 1 < size then (ws, i + 1) else (putWord ws 0 (word ws (size - 1)), 1)

/-- Mix a key into a state; `j` is the place in the key. -/
def mixKey (key : Array UInt32) (ws : Words) (i j : Nat) : Nat → Words × Nat
  | 0 => (ws, i)
  | count + 1 =>
    let w := (word ws i ^^^ carry (word ws (i - 1)) 1664525) + key.getD j 0 + UInt32.ofNat j
    let (ws, i) := advance (putWord ws i w) i
    mixKey key ws i (if j + 1 < key.size then j + 1 else 0) count

def mixAgain (ws : Words) (i : Nat) : Nat → Words
  | 0 => ws
  | count + 1 =>
    let w := (word ws i ^^^ carry (word ws (i - 1)) 1566083941) - UInt32.ofNat i
    let (ws, i) := advance (putWord ws i w) i
    mixAgain ws i count

/-- The 32-bit digits of a number, the lowest first; zero has one. -/
def keyWords (n : Nat) : List UInt32 :=
  if n < 0x100000000 then [UInt32.ofNat n] else UInt32.ofNat n :: keyWords (n / 0x100000000)

/-- The generator for a seed; the sign of the seed does not count. -/
def ofSeed (seed : Int) : Twister :=
  let key := (keyWords seed.natAbs).toArray
  let (ws, i) := mixKey key blank 1 0 (max size key.size)
  { words := putWord (mixAgain ws i (size - 1)) 0 0x80000000 }

/-- Renew the words from `i` on. -/
def renewFrom (ws : Words) (i : Nat) : Nat → Words
  | 0 => ws
  | count + 1 =>
    let y := (word ws i &&& 0x80000000) ||| (word ws (i + 1) &&& 0x7fffffff)
    let twist : UInt32 := if y &&& 1 = 1 then 0x9908b0df else 0
    renewFrom (putWord ws i (word ws (i + 397) ^^^ (y >>> 1) ^^^ twist)) (i + 1) count

def temper (w : UInt32) : UInt32 :=
  let w := w ^^^ (w >>> 11)
  let w := w ^^^ ((w <<< 7) &&& 0x9d2c5680)
  let w := w ^^^ ((w <<< 15) &&& 0xefc60000)
  w ^^^ (w >>> 18)

def next (t : Twister) : UInt32 × Twister :=
  let t := if t.position < size then t else ⟨renewFrom t.words 0 size, 0⟩
  (temper (word t.words t.position), { t with position := t.position + 1 })

end Twister

end BucketStore
