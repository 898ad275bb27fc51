import Mathlib.Data.Rat.Defs
import OpenhabConfiguration.Library.Parsing

/-!
# What openHAB reads in the four files

Readers for the part of openHAB's file formats that the builders use: items
(`readItems`), a Bridge with its Things and channels (`readThings`), rules (`readRules`)
and a sitemap with its Frames (`readSitemap`). Each takes the text of a file and returns
what the file declares, or nothing when the text is not of the format.

The host of the broker is spliced into the Bridge header as it is, so `readThings` only
reads the header up to the Bridge's name; the declarations of a Bridge are those behind the
last line that is a lone brace. `readBridgeBlock` reads the whole file, with the connection
to the broker in the header, and accepts nothing but one Bridge block.
-/

set_option autoImplicit false

namespace OpenhabConfiguration.Interface

open Lexing Parsing

/-! ## Items -/

/-- A declaration of an items file. A group is an item of type `Group`. -/
structure Item where
  type : String
  name : String
  label : Option String
  icon : Option String
  groups : List String
  channel : Option String
deriving DecidableEq, Repr

/-- The label of an item, if it has one. -/
def optLabel : Parser (Option String)
  | .str l :: ts => some (some l, ts)
  | ts => some (none, ts)

/-- The icon of an item, between angle brackets. -/
def optIcon : Parser (Option String)
  | .sym '<' :: .word i :: .sym '>' :: ts => some (some i, ts)
  | ts => some (none, ts)

/-- The names of a group list behind its opening parenthesis. -/
def groupNames : Parser (List String)
  | .word g :: .sym ',' :: ts => (groupNames ts).map fun r => (g :: r.1, r.2)
  | .word g :: .sym ')' :: ts => some ([g], ts)
  | _ => none

/-- The groups an item belongs to; without a list, none. -/
def optGroups : Parser (List String)
  | .sym '(' :: ts => groupNames ts
  | ts => some ([], ts)

/-- The channel an item is linked to, between braces. -/
def optChannel : Parser (Option String)
  | .sym '\x7b' :: .word "channel" :: .sym '=' :: .str uid :: .sym '\x7d' :: ts =>
      some (some uid, ts)
  | ts => some (none, ts)

/-- One declaration of an items file. -/
def item : Parser Item := do
  let type ← ident
  let name ← ident
  let label ← optLabel
  let icon ← optIcon
  let groups ← optGroups
  let channel ← optChannel
  return { type, name, label, icon, groups, channel }

/-- The items an items file declares. -/
def readItems (text : String) : Option (List Item) := runAll (many item) (tokens text.toList)

/-! ## Things -/

/-- A channel of a Thing. -/
structure Channel where
  kind : String
  id : String
  label : String
  stateTopic : String
deriving DecidableEq, Repr

/-- A Thing nested in a Bridge. -/
structure Thing where
  type : String
  id : String
  label : String
  channels : List Channel
deriving DecidableEq, Repr

/-- A Bridge of the MQTT binding. -/
structure Bridge where
  id : String
  things : List Thing
deriving DecidableEq, Repr

/-- One line below `Channels`. -/
def channel : Parser Channel := do
  word "Type"
  let kind ← ident
  sym ':'
  let id ← ident
  let label ← str
  sym '['
  word "stateTopic"
  sym '='
  let stateTopic ← str
  sym ']'
  return { kind, id, label, stateTopic }

/-- A Thing with its channels. -/
def thing : Parser Thing := do
  word "Thing"
  let type ← ident
  let id ← ident
  let label ← str
  sym '\x7b'
  word "Channels"
  sym ':'
  let channels ← many channel
  sym '\x7d'
  return { type, id, label, channels }

/-- The Things of a Bridge, behind its opening brace. -/
def bridgeBody : Parser (List Thing) := do
  let things ← many thing
  sym '\x7d'
  return things

/-- The name of the Bridge a things file starts with. -/
def bridgeId : List Token → Option String
  | .word "Bridge" :: .word "mqtt" :: .sym ':' :: .word "broker" :: .sym ':' :: .word b :: _ =>
      some b
  | _ => none

/-- The text behind the last line that is a lone opening brace. `body` is the text behind
the last one so far; `start` says that a line starts here. -/
def behindLoneBrace (body : Option (List Char)) (start : Bool) :
    List Char → Option (List Char)
  | [] => body
  | c :: cs =>
      if c = '\x7b' ∧ start = true ∧ cs.head? = some '\n' then
        behindLoneBrace (some cs.tail) false cs
      else behindLoneBrace body (c = '\n') cs

/-- The Bridge a things file declares. -/
def readThings (text : String) : Option Bridge := do
  let id ← bridgeId (tokens text.toList)
  let body ← behindLoneBrace none true text.toList
  let things ← runAll bridgeBody (tokens body)
  return { id, things }

/-! ## The Bridge with its header -/

/-- The connection to the broker that a Bridge header asks for. -/
structure Broker where
  host : String
  secure : Bool
  qos : ℕ
deriving DecidableEq, Repr

/-- A things file that is one Bridge block: its header and the Things in its braces. -/
structure BridgeBlock where
  id : String
  broker : Broker
  things : List Thing
deriving DecidableEq, Repr

/-- A character that stands for itself in a quoted string: it neither begins an escape
sequence nor ends the line. -/
def standsForItself (c : Char) : Bool := c != '\\' && c != '\n' && c != '\r'

/-- A quoted string of which every character stands for itself. -/
def plainStr : Parser String
  | .str v :: ts => if v.toList.all standsForItself then some (v, ts) else none
  | _ => none

/-- A truth value. -/
def boolean : Parser Bool
  | .word "true" :: ts => some (true, ts)
  | .word "false" :: ts => some (false, ts)
  | _ => none

/-- A number without a decimal point. -/
def natural : Parser ℕ
  | .num n :: ts =>
      if n.toList.all Char.isDigit then some (Nat.ofDigitChars 10 n.toList 0, ts) else none
  | _ => none

/-- The parameters in the brackets of a Bridge header. -/
def broker : Parser Broker := do
  word "host"
  sym '='
  let host ← plainStr
  sym ','
  word "secure"
  sym '='
  let secure ← boolean
  sym ','
  word "qos"
  sym '='
  let qos ← natural
  return { host, secure, qos }

/-- A whole Bridge block: header, opening brace, Things and closing brace. -/
def bridgeBlock : Parser BridgeBlock := do
  word "Bridge"
  word "mqtt"
  sym ':'
  word "broker"
  sym ':'
  let id ← ident
  let _ ← str
  sym '['
  let broker ← broker
  sym ']'
  sym '\x7b'
  let things ← bridgeBody
  return { id, broker, things }

/-- The Bridge block a things file consists of. -/
def readBridgeBlock (text : String) : Option BridgeBlock := runAll bridgeBlock (tokens text.toList)

/-! ## Rules -/

/-- An expression of a rule body. -/
inductive Expr where
  | state (item : String)
  | asDecimal (e : Expr)
  | decimal (q : ℚ)
  | text (s : String)
  | mul (a b : Expr)
  | gt (a b : Expr)
  | and (a b : Expr)
deriving DecidableEq

/-- A statement of a rule body. -/
inductive Stmt where
  | skip
  | seq (a b : Stmt)
  | sendCommand (item : String) (e : Expr)
  | ifThen (cond : Expr) (body : Stmt)
deriving DecidableEq

/-- A rule that is triggered by the updates of one item. -/
structure Rule where
  name : String
  trigger : String
  body : Stmt
deriving DecidableEq

/-- The number a decimal literal stands for. -/
def decimalOf (s : String) : ℚ :=
  let whole := s.toList.takeWhile (· ≠ '.')
  let fraction := (s.toList.dropWhile (· ≠ '.')).drop 1
  (Nat.ofDigitChars 10 (whole ++ fraction) 0 : ℚ) / 10 ^ fraction.length

/-- A literal, or the state of an item. -/
def primary : Parser Expr
  | .word x :: .sym '.' :: .word "state" :: ts => some (.state x, ts)
  | .num n :: ts => some (.decimal (decimalOf n), ts)
  | .str s :: ts => some (.text s, ts)
  | _ => none

/-- A cast binds tighter than every operator. -/
def cast : Parser Expr := do
  let e ← primary
  fun
    | .word "as" :: .word "DecimalType" :: ts => some (.asDecimal e, ts)
    | ts => some (e, ts)

/-- Factors, from the left. -/
def product : Parser Expr := do
  let e ← cast
  let es ← many (do sym '*'; cast)
  return es.foldl .mul e

/-- Products with `>` between them. -/
def comparison : Parser Expr := do
  let a ← product
  let bs ← many (do sym '>'; product)
  return bs.foldl .gt a

/-- Comparisons with `&&` between them. -/
def conjunction : Parser Expr := do
  let a ← comparison
  let bs ← many (do sym '&'; sym '&'; comparison)
  return bs.foldl .and a

/-- A command or an `if` whose statements are nested less than `depth` deep. -/
def statement : ℕ → Parser Stmt
  | 0 => fun _ => none
  | depth + 1 => fun
    | .word x :: .sym '.' :: .word "sendCommand" :: .sym '(' :: ts =>
        (do
          let e ← conjunction
          sym ')'
          return Stmt.sendCommand x e : Parser Stmt) ts
    | .word w :: .sym '(' :: ts =>
        (do
          let cond ← conjunction
          sym ')'
          sym '\x7b'
          let body ← many (statement depth)
          sym '\x7d'
          if w = "if" then return Stmt.ifThen cond (body.foldr .seq .skip)
          else failure : Parser Stmt) ts
    | _ => none

/-- One rule. Its statements cannot be nested deeper than there are tokens. -/
def rule : Parser Rule := do
  word "rule"
  let name ← str
  word "when"
  word "Item"
  let trigger ← ident
  word "received"
  word "update"
  word "then"
  let body ← fun ts => many (statement ts.length) ts
  word "end"
  return { name, trigger, body := body.foldr .seq .skip }

/-- The rules a rules file declares. -/
def readRules (text : String) : Option (List Rule) := runAll (many rule) (tokens text.toList)

/-! ## Sitemaps -/

/-- A Frame with the items it shows. -/
structure Frame where
  label : String
  items : List String
deriving DecidableEq, Repr

/-- A sitemap. -/
structure Sitemap where
  name : String
  label : String
  frames : List Frame
deriving DecidableEq, Repr

/-- A line of a Frame: the item it shows. -/
def textLine : Parser String := do
  word "Text"
  word "item"
  sym '='
  ident

/-- A Frame with its lines. -/
def frame : Parser Frame := do
  word "Frame"
  word "label"
  sym '='
  let label ← str
  sym '\x7b'
  let items ← many textLine
  sym '\x7d'
  return { label, items }

/-- A whole sitemap. -/
def sitemap : Parser Sitemap := do
  word "sitemap"
  let name ← ident
  word "label"
  sym '='
  let label ← str
  sym '\x7b'
  let frames ← many frame
  sym '\x7d'
  return { name, label, frames }

/-- The sitemap a sitemap file declares. -/
def readSitemap (text : String) : Option Sitemap := runAll sitemap (tokens text.toList)

end OpenhabConfiguration.Interface
