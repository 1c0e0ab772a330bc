import ProbeKit.Digest.Sha256

/-!
# The digest with lists

Every word that is added to a block is found from words a fixed way back from its end.  So a block is
expanded here as a list with the last word first (`expanded`), which is the schedule of the block if
it has its sixteen words (`toList_schedule`), and every block of a message has them.
`hexDigest_eq` is the whole digest over such lists: the form in which the digest of a given text is
worked out.
-/

namespace ProbeKit.Digest

/-- The word after those of a block, the last of them first. -/
def nextWord (w : List UInt32) : UInt32 :=
  let x := w.getD 14 0
  let y := w.getD 1 0
  let s0 := rotate x 7 ^^^ rotate x 18 ^^^ (x >>> 3)
  let s1 := rotate y 17 ^^^ rotate y 19 ^^^ (y >>> 10)
  w.getD 15 0 + s0 + w.getD 6 0 + s1

/-- A block with as many more words as given, the last word first. -/
def expanded : Nat → List UInt32 → List UInt32
  | 0, w => w
  | more + 1, w => expanded more (nextWord w :: w)

theorem getD_back (w : Array UInt32) (back : Nat) (h : back < w.size) :
    w.getD (w.size - (back + 1)) 0 = w.toList.reverse.getD back 0 := by
  rw [List.getD_eq_getElem?_getD, List.getElem?_reverse (by simpa using h), Array.length_toList,
    Array.getElem?_toList, Array.getD_eq_getD_getElem?, Nat.sub_sub, Nat.add_comm 1 back]

theorem toList_extend {w : Array UInt32} (h : 16 ≤ w.size) :
    (extend w).toList.reverse = nextWord w.toList.reverse :: w.toList.reverse := by
  rw [extend, Array.toList_push, List.reverse_concat, nextWord, ← getD_back w 15 (by omega),
    ← getD_back w 14 (by omega), ← getD_back w 6 (by omega), ← getD_back w 1 (by omega)]

theorem toList_schedule {block : List UInt32} (h : 16 ≤ block.length) :
    (schedule block).toList = (expanded 48 block.reverse).reverse := by
  have hfold : ∀ (steps : List Nat) (w : Array UInt32), 16 ≤ w.size →
      (steps.foldl (fun w _ => extend w) w).toList.reverse =
        expanded steps.length w.toList.reverse := by
    intro steps
    induction steps with
    | nil => exact fun w _ => rfl
    | cons _ steps ih =>
      intro w hw
      have hmore : 16 ≤ (extend w).size := by
        rw [extend, Array.size_push]
        omega
      rw [List.foldl_cons, ih _ hmore, toList_extend hw, List.length_cons, expanded]
  rw [← List.reverse_reverse (schedule block).toList, schedule, hfold _ _ h, List.length_range]

/-- The state after one block, by its expanded list. -/
def compressed (s : State) (block : List UInt32) : State :=
  s.add (((expanded 48 block.reverse).reverse.zip roundConstants.toList).foldl
    (fun t p => t.round p.1 p.2) s)

theorem compress_eq (s : State) {block : List UInt32} (h : 16 ≤ block.length) :
    compress s block = compressed s block := by
  rw [compress, compressed, ← toList_schedule h, ← Array.toList_zip, Array.foldl_toList]

/-- The state after as many blocks as given, by their expanded lists. -/
def absorbed (s : State) : Nat → List UInt32 → State
  | 0, _ => s
  | blocks + 1, words => absorbed (compressed s (words.take 16)) blocks (words.drop 16)

theorem absorb_eq (s : State) {blocks : Nat} {words : List UInt32}
    (h : 16 * blocks ≤ words.length) : absorb s blocks words = absorbed s blocks words := by
  induction blocks generalizing s words with
  | zero => rfl
  | succ blocks ih =>
    have hblock : 16 ≤ (words.take 16).length := by
      rw [List.length_take]
      omega
    have hrest : 16 * blocks ≤ (words.drop 16).length := by
      rw [List.length_drop]
      omega
    rw [absorb, absorbed, compress_eq s hblock, ih _ hrest]

open Text in
/-- The digest of a text, by the expanded lists of its blocks. -/
theorem hexDigest_eq (s : String) :
    hexDigest s =
      let words := wordsOf (padded (encode s).toList)
      String.ofList ((absorbed State.initial (words.length / 16) words).words.flatMap
        fun w => hexDigits 8 w.toNat) := by
  rw [hexDigest, hexDigestOf, sha256, absorb_eq _ (Nat.mul_div_le _ _)]

end ProbeKit.Digest
