/-!
# Texts in files

A file is a sequence of bytes.  `decode?` reads bytes as strict UTF-8, `unifyLineEnds` turns each
carriage return, alone or before a line feed, into one line feed, and `readText?` does both, as
every text file of a project is read.  `readText?_encode` says that a text without carriage
returns comes back from its own bytes.
-/

namespace ProbeKit.Text

/-- The bytes of a text. -/
def encode (s : String) : ByteArray := s.toUTF8

/-- The text of well-formed bytes: no stray, missing, overlong or surrogate sequences. -/
def decode? (bytes : ByteArray) : Option String := String.fromUTF8? bytes

/-- Ends every line with a single line feed. -/
def unifyLineEnds : List Char → List Char
  | '\r' :: '\n' :: cs => '\n' :: unifyLineEnds cs
  | '\r' :: cs => '\n' :: unifyLineEnds cs
  | c :: cs => c :: unifyLineEnds cs
  | [] => []

/-- The text that a file's bytes stand for. -/
def readText? (bytes : ByteArray) : Option String :=
  (decode? bytes).map fun s => String.ofList (unifyLineEnds s.toList)

theorem decode?_encode (s : String) : decode? (encode s) = some s := by
  have h : s.toUTF8.IsValidUTF8 := s.isValidUTF8
  simp only [decode?, encode, String.fromUTF8?, h, ↓reduceDIte]
  rfl

theorem unifyLineEnds_eq_self {cs : List Char} (h : '\r' ∉ cs) : unifyLineEnds cs = cs := by
  fun_induction unifyLineEnds cs with
  | case1 => simp at h
  | case2 => simp at h
  | case3 c cs _ _ ih => rw [ih (fun hc => h (List.mem_cons_of_mem _ hc))]
  | case4 => rfl

/-- A text without carriage returns is read back from its bytes. -/
theorem readText?_encode {s : String} (h : '\r' ∉ s.toList) : readText? (encode s) = some s := by
  simp [readText?, decode?_encode, unifyLineEnds_eq_self h]

end ProbeKit.Text
