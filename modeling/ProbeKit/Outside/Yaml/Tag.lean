import ProbeKit.Text.Encoding
import ProbeKit.Outside.Yaml.Cursor
import ProbeKit.Outside.Yaml.Token

/-!
# YAML tags, names and directives

A tag names the kind of a node: in full between angles, by a handle that a directive gives a
meaning to, or with the handle of a single mark.  Characters outside the alphabet of tags are
written byte by byte.  Anchors and aliases are plain names.
-/

namespace ProbeKit.Outside.Yaml

open Text

/-- Whether a character may stand in a tag. -/
def isTagChar (c : Char) : Bool :=
  c.isAlphanum || "-;/?:@&=+$,_.!~*'()[]%".toList.contains c

/-- The bytes of escapes in a tag. -/
def escapedBytes (c : Cursor) : Nat → Except Problem (List UInt8 × Cursor)
  | 0 => .ok ([], c)
  | fuel + 1 =>
    match c.rest with
    | '%' :: rest =>
      match hexNat? (rest.take 2) with
      | some n =>
        if rest.length < 2 then .error .malformed
        else do
          let (bytes, c) ← escapedBytes (c.forward 3) fuel
          return (UInt8.ofNat n :: bytes, c)
      | none => .error .malformed
    | _ => .ok ([], c)

/-- The characters of a tag. -/
def tagChars (c : Cursor) : Nat → Except Problem (List Char × Cursor)
  | 0 => .ok ([], c)
  | fuel + 1 =>
    match c.rest with
    | '%' :: _ => do
      let (bytes, c) ← escapedBytes c c.rest.length
      match decode? (ByteArray.mk bytes.toArray) with
      | some s => do
        let (more, c) ← tagChars c fuel
        return (s.toList ++ more, c)
      | none => .error .malformed
    | ch :: _ =>
      if isTagChar ch then do
        let (more, c) ← tagChars c.next fuel
        return (ch :: more, c)
      else .ok ([], c)
    | [] => .ok ([], c)

/-- A tag, not empty. -/
def tagText (c : Cursor) : Except Problem (String × Cursor) := do
  let (cs, c) ← tagChars c c.rest.length
  if cs.isEmpty then .error .malformed else .ok (String.ofList cs, c)

/-- The handle of a tag: a mark, or a name between two marks. -/
def tagHandle (c : Cursor) : Except Problem (String × Cursor) :=
  match c.rest with
  | '!' :: ' ' :: _ => .ok ("!", c.next)
  | '!' :: rest =>
    let name := rest.takeWhile isNameChar
    match rest.drop name.length with
    | '!' :: _ => .ok (String.ofList ('!' :: name ++ ['!']), c.forward (name.length + 2))
    | _ => .error .malformed
  | _ => .error .malformed

/-- The digits of a version. -/
def versionNumber (c : Cursor) : Except Problem (Nat × Cursor) :=
  match c.take Char.isDigit with
  | ([], _) => .error .malformed
  | (ds, c) => .ok (ofDigits 10 (ds.map fun d => d.toNat - 48), c)

/-- A directive, from its mark on. -/
def directive (c : Cursor) : Except Problem (Token × Cursor) := do
  let (name, c) := c.next.take isNameChar
  if name.isEmpty || !clearAhead c.rest then throw .malformed
  let (d, c) ←
    if name == "YAML".toList then do
      let (major, c) ← versionNumber (c.skip (· == ' '))
      if c.rest.head? != some '.' then throw .malformed
      let (_, c) ← versionNumber c.next
      if !clearAhead c.rest then throw .malformed
      pure (Directive.version major, c)
    else if name == "TAG".toList then do
      let (handle, c) ← tagHandle (c.skip (· == ' '))
      if c.rest.head? != some ' ' then throw .malformed
      let (tags, c) ← tagText (c.skip (· == ' '))
      if !clearAhead c.rest then throw .malformed
      pure (Directive.handle handle tags, c)
    else pure (Directive.other, c.skip (!isBreak ·))
  return (.directive d, ← commentLine c)

/-- The name of an anchor or an alias, from its mark on. -/
def anchorName (c : Cursor) : Except Problem (String × Cursor) :=
  let (name, c) := c.next.take isNameChar
  if name.isEmpty || !(gapAhead c.rest || ahead "?:,]\x7d%@\x60" c.rest) then .error .malformed
  else .ok (String.ofList name, c)

/-- A tag, from its mark on. -/
def tag (c : Cursor) : Except Problem (Token × Cursor) := do
  let (t, c) ←
    match c.next.rest with
    | '<' :: _ => do
      let (rest, c) ← tagText (c.forward 2)
      if c.rest.head? != some '>' then throw .malformed
      pure (Token.tag none rest, c.next)
    | more =>
      if gapAhead more then pure (Token.tag none "!", c.next)
      else if (more.takeWhile fun ch => !(ch == ' ' || isBreak ch)).contains '!' then do
        let (handle, c) ← tagHandle c
        let (rest, c) ← tagText c
        pure (Token.tag (some handle) rest, c)
      else do
        let (rest, c) ← tagText c.next
        pure (Token.tag (some "!") rest, c)
  if clearAhead c.rest then return (t, c) else throw .malformed

end ProbeKit.Outside.Yaml
