import PickupGame.Text.WidthTable

/-!
# Width of text

How many columns this machine counts for a text. Wide characters take two, combining and ignorable
ones none, all others one, control characters included. A line break of two characters counts once.
An emoji with its selectors and modifiers, and a chain of them linked by joiners, takes two columns;
so does a flag. The letters lam and alef share one column. Sequences of other scripts that share
columns, as in Khmer, Lisu or Tifinagh, are counted character by character.
-/

namespace PickupGame.Text

open WidthTable

/-- The columns of a character by itself. -/
def charWidth (c : Char) : Nat :=
  if c.toNat < 0xA1 then 1
  else if c = '\u115F' then 2
  else if c = '\u17D8' then 3
  else if inCodeSet zeroWidth c then 0
  else if inCodeSet doubleWidth c then 2
  else 1

namespace Emoji

def isRegional (c : Char) : Bool :=
  0x1F1E6 ≤ c.toNat && c.toNat ≤ 0x1F1FF

def isModifier (c : Char) : Bool :=
  0x1F3FB ≤ c.toNat && c.toNat ≤ 0x1F3FF

def isTag (c : Char) : Bool :=
  0xE0020 ≤ c.toNat && c.toNat ≤ 0xE007F

/-- Enclosed ideographs keep their width in text presentation. -/
def isIdeograph (c : Char) : Bool :=
  0x1F200 ≤ c.toNat && c.toNat ≤ 0x1F2FF

/-- One emoji at the front of a text that stands as a picture, and what is left. -/
def picture? : List Char → Option (List Char)
  | [] => none
  | c :: cs =>
    if isRegional c then
      match cs with
      | d :: cs => if isRegional d then some cs else none
      | [] => none
    else if inCodeSet emoji c then
      match cs with
      | '\uFE0F' :: '\u20E3' :: cs => some cs
      | '\uFE0F' :: cs => some (cs.dropWhile isTag)
      | d :: cs =>
        if isModifier d && inCodeSet modifierBase c then some cs
        else if d ≠ '\uFE0E' && inCodeSet emojiPresentation c then some ((d :: cs).dropWhile isTag)
        else none
      | [] => if inCodeSet emojiPresentation c then some [] else none
    else none

/-- What is left behind further pictures, each linked to the one before by a joiner. -/
def joined : Nat → List Char → List Char
  | 0, cs => cs
  | fuel + 1, cs =>
    match cs with
    | '\u200D' :: rest =>
      match picture? rest with
      | some rest => joined fuel rest
      | none => cs
    | _ => cs

/-- An emoji narrowed by a text selector, and what is left. -/
def narrowed? : List Char → Option (List Char)
  | c :: '\uFE0E' :: cs =>
    if inCodeSet emojiPresentation c && !isRegional c && !isIdeograph c then some cs else none
  | _ => none

end Emoji

/-- The forms of the Arabic letter lam. -/
def isLam (c : Char) : Bool :=
  let n := c.toNat
  n == 0x644 || (0x6B5 ≤ n && n ≤ 0x6B8) || n == 0x76A || n == 0x8A6 || n == 0x8C7

/-- The forms of the Arabic letter alef. -/
def isAlef (c : Char) : Bool :=
  let n := c.toNat
  n == 0x622 || n == 0x623 || n == 0x625 || n == 0x627 || (0x671 ≤ n && n ≤ 0x673) || n == 0x675
    || n == 0x773 || n == 0x774 || (0x870 ≤ n && n ≤ 0x882)

/-- Marks that do not come between two joining letters. -/
def isTransparent (c : Char) : Bool :=
  inCodeSet zeroWidth c && c ≠ '\u200C' && c ≠ '\u200D'

/-- A lam with an alef behind it, and what is left. -/
def lamAlef? : List Char → Option (List Char)
  | c :: cs =>
    if isLam c then
      match cs.dropWhile isTransparent with
      | d :: rest => if isAlef d then some rest else none
      | [] => none
    else none
  | [] => none

/-- The columns of a text, found with at most `fuel` steps. -/
def widthWithin : Nat → List Char → Nat
  | 0, _ => 0
  | _ + 1, [] => 0
  | fuel + 1, c :: cs =>
    if c.toNat < 0x80 && (c ≠ '\r' || cs.head? ≠ some '\n') && cs.head? ≠ some '\uFE0F' then
      1 + widthWithin fuel cs
    else if c = '\r' && cs.head? = some '\n' then 1 + widthWithin fuel cs.tail
    else match Emoji.picture? (c :: cs) with
      | some rest => 2 + widthWithin fuel (Emoji.joined rest.length rest)
      | none =>
        match Emoji.narrowed? (c :: cs) with
        | some rest => 1 + widthWithin fuel rest
        | none =>
          match lamAlef? (c :: cs) with
          | some rest => 1 + widthWithin fuel rest
          | none => charWidth c + widthWithin fuel cs

def width (cs : List Char) : Nat :=
  widthWithin cs.length cs

end PickupGame.Text
