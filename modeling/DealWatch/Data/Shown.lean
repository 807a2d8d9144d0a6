import DealWatch.Data.Datum
import DealWatch.Number.Decimal
import DealWatch.Text.Quoted

/-!
# Values as text

* `Datum.shown` is a value as it is shown to a programmer;
* `Datum.plain` is the same for all but texts, dates and points in time, which are written plainly;
* `Datum.withTextKeys` has texts in place of all other keys.

In the second, a replacement character stands for half of a surrogate pair.
-/

namespace DealWatch

/-- How a byte is written between the given quotes. -/
def quotedByte (quote : Char) (b : UInt8) : List Char :=
  let c := Char.ofNat b.toNat
  if c.toNat < 0x7f then quotedChar quote c else '\\' :: 'x' :: hexPadded 2 b.toNat

/-- Bytes between quotes with a mark in front. -/
def quotedBytes (bytes : List UInt8) : String :=
  let quote := quoteFor (bytes.map fun b => Char.ofNat b.toNat)
  String.ofList ('b' :: quote :: bytes.flatMap (quotedByte quote) ++ [quote])

/-- Numbers with commas between them. -/
def listed (ns : List Nat) : String := ", ".intercalate (ns.map toString)

/-- A date as it is shown to a programmer. -/
def Date.shown (d : Date) : String := "datetime.date(" ++ listed [d.year, d.month, d.day] ++ ")"

/-- A number of seconds as it is shown to a programmer, in days and seconds of a day. -/
def shownSeconds (seconds : Int) : String :=
  let days := seconds / 86400
  let rest := (seconds % 86400).toNat
  ", ".intercalate ((if days = 0 then [] else ["days=" ++ toString days]) ++
    if rest = 0 then [] else ["seconds=" ++ toString rest])

/-- A distance from universal time as it is shown to a programmer. -/
def shownZone (offset : Int) : String :=
  if offset = 0 then "datetime.timezone.utc"
  else "datetime.timezone(datetime.timedelta(" ++ shownSeconds offset ++ "))"

/-- A point in time as it is shown to a programmer. Seconds and microseconds are left out if they
and what follows them are zero. -/
def Timestamp.shown (t : Timestamp) : String :=
  let second := t.microOfDay / 1000000
  let micro := t.microOfDay % 1000000
  let small := if micro = 0 then (if second % 60 = 0 then [] else [second % 60])
    else [second % 60, micro]
  let zone := match t.offset with
    | some o => ", tzinfo=" ++ shownZone o
    | none => ""
  "datetime.datetime(" ++ listed ([t.date.year, t.date.month, t.date.day, second / 3600,
    second / 60 % 60] ++ small) ++ zone ++ ")"

/-- A scalar as it is shown to a programmer. -/
def Scalar.shown : Scalar → String
  | .null => "None"
  | .flag b => if b then "True" else "False"
  | .int i => toString i
  | .float x => x.shortText
  | .text s => quoted s
  | .unpaired t => t.quoted
  | .bytes b => quotedBytes b
  | .date d => d.shown
  | .time t => t.shown

/-- A scalar as text, where a text stands for itself. -/
def Scalar.plain : Scalar → String
  | .text s => s
  | .unpaired t => t.shown
  | .date d => d.isoText
  | .time t => t.textWith " " ++ (t.offset.map Timestamp.offsetText).getD ""
  | s => s.shown

/-- A value as it is shown to a programmer. -/
def Datum.shown : Datum → String
  | .scalar s => s.shown
  | .list items => "[" ++ shownItems items ++ "]"
  | .dict entries => "\x7b" ++ shownEntries entries ++ "\x7d"
  | .set [] => "set()"
  | .set members => "\x7b" ++ ", ".intercalate (members.map Scalar.shown) ++ "\x7d"
  | .pair key value => "(" ++ key.shown ++ ", " ++ value.shown ++ ")"
where
  /-- Some values with commas between them. -/
  shownItems : List Datum → String
    | [] => ""
    | [d] => d.shown
    | d :: ds => d.shown ++ ", " ++ shownItems ds
  /-- Some entries with commas between them. -/
  shownEntries : List (Scalar × Datum) → String
    | [] => ""
    | [(k, d)] => k.shown ++ ": " ++ d.shown
    | (k, d) :: es => k.shown ++ ": " ++ d.shown ++ ", " ++ shownEntries es

/-- A value as text, where a text stands for itself. -/
def Datum.plain : Datum → String
  | .scalar s => s.plain
  | d => d.shown

/-- A value with texts in place of the other keys of its dictionaries. -/
def Datum.withTextKeys : Datum → Datum
  | .list items => .list (keyedItems items)
  | .dict entries =>
    .dict ((keyedEntries entries).foldl (fun es (k, d) => Entries.put k d es) [])
  | .pair key value => .pair key.withTextKeys value.withTextKeys
  | d => d
where
  /-- Some values with texts as keys. -/
  keyedItems : List Datum → List Datum
    | [] => []
    | d :: ds => d.withTextKeys :: keyedItems ds
  /-- Some entries with texts as keys. -/
  keyedEntries : List (Scalar × Datum) → List (Scalar × Datum)
    | [] => []
    | (k, d) :: es => (.text k.plain, d.withTextKeys) :: keyedEntries es

end DealWatch
