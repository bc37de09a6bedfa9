import PickupGame.Api.Payload
import PickupGame.Calendar
import PickupGame.Display.Table

/-!
# What is shown of an answer

Pugs, players and votes as tables, and an envelope as a headline with its payload below. A payload
that does not fit its code is shown as the raw data, with a warning.
-/

namespace PickupGame.Display

open PickupGame.Api

def number (n : Nat) : String :=
  String.ofList (Numeral.digits n)

/-- What stands for something that is not there. -/
def absent : String := "-"

def mapCell (p : Pug) : String :=
  match p.map with
  | some map => if p.mapForced then map ++ " (forced)" else map
  | none => absent

def serverCell (p : Pug) : String :=
  match p.server with
  | some s => s.ip ++ ":" ++ number s.port.toNat
  | none => absent

def adminCell (p : Pug) : String :=
  match p.admin with
  | some id => number id.toNat
  | none => absent

def playersCell (p : Pug) : String :=
  number p.playerCount ++ "/" ++ number p.size.toNat

/-- A cell with nothing to set it off. -/
def plain (text : String) : Cell :=
  ⟨text, false, none⟩

section

variable [Screen]

def colored (color : Color) (text : String) : Cell :=
  ⟨text, false, if Screen.useColors then some color else none⟩

/-- A cell of a header. -/
def heading (color : Color) (text : String) : Cell :=
  { colored color text with isBold := true }

/-- The players stand out when the pug is full. -/
def pugRow (p : Pug) : List Cell :=
  [colored .cyan (number p.id.toNat), plain p.namedState, plain (mapCell p),
    if p.isFull then colored .red (playersCell p) else plain (playersCell p), plain (adminCell p),
    colored .darkGrey (serverCell p)]

def playerRow (p : Player) : List Cell :=
  [colored .green (number p.id.toNat), plain p.name]

def voteRow (c : MapVoteCount) : List Cell :=
  [plain c.map, plain (number c.count.toNat)]

def pugTable (pugs : List Pug) : Table :=
  ⟨["ID", "State", "Map", "Players", "Admin", "Server"].map (heading .cyan), pugs.map pugRow⟩

def playerTable (players : List Player) : Table :=
  ⟨["Steam ID", "Name"].map (heading .green), players.map playerRow⟩

def voteTable (counts : List MapVoteCount) : Table :=
  ⟨["Map", "Votes"].map (heading .yellow), counts.map voteRow⟩

def pugList (pugs : List Pug) : String :=
  if pugs.isEmpty then "No pugs running." else (pugTable pugs).render

def playerList (players : List Player) : String :=
  if players.isEmpty then "No players." else (playerTable players).render

def mapVotes (counts : List MapVoteCount) : String :=
  (voteTable counts).render

end

def deadlineLine (seconds : Nat) : String :=
  "Map vote ends: " ++ (Instant.ofSeconds seconds).text

/-- A pug with its players, its votes and the end of its vote, as far as there are any. -/
def pug [Screen] (p : Pug) : String :=
  "\n".intercalate <|
    pugList [p]
      :: (if p.players.isEmpty then [] else [playerList p.players])
      ++ (if p.mapVoteCounts.isEmpty then [] else [mapVotes p.mapVoteCounts])
      ++ (match p.deadline? with
          | some t => [deadlineLine t]
          | none => [])

def payload? [Screen] : Payload → Option String
  | .pugListing pugs => some (pugList pugs)
  | .playerList players => some (playerList players)
  | .pugEnded id => some s!"Pug {number id.toNat} ended."
  | p => p.pug?.map pug

def headline (e : Envelope) : String :=
  "Response: " ++ e.code.display

/-- An envelope for people to read, with the warnings it gives rise to. -/
def result [Screen] (e : Envelope) : String × List Log.Entry :=
  match e.payload with
  | .error f => (headline e ++ "\n" ++ e.raw.pretty, [Log.warn .display f.message])
  | .ok p =>
    match payload? p with
    | some body => (headline e ++ "\n" ++ body, [])
    | none => (headline e, [])

end PickupGame.Display
