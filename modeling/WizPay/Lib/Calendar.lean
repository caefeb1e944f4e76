import WizPay.Lib.GoTime

/-!
# Civil time in a location

`time.Date`, `AddDate` and the civil fields of an instant in a `time.Location`. Offsets
are whole seconds.
-/
namespace GoTime

/-- What `loc.lookup` returns: an offset in seconds and the seconds `start ≤ · < stop` that it is in force. -/
structure ZoneSpan where
  offset : Int
  start : Int
  stop : Int
deriving DecidableEq

/-- A `*time.Location`; seconds count from the zero time. -/
structure Location where
  lookup : Int → ZoneSpan

def Location.utc : Location := ⟨fun second => ⟨0, second, second + 1⟩⟩

/-- The installed time zone database and the zone of the host. -/
structure TimeZones where
  database : String → Option Location
  localZone : Location

/-- `time.LoadLocation`. -/
def TimeZones.loadLocation (zones : TimeZones) (name : String) : Option Location :=
  if name = "" ∨ name = "UTC" then some .utc
  else if name = "Local" then some zones.localZone
  else zones.database name

/-- The day number of a date, from January 1 of year 1; months and days may be out of range. -/
def dayNumber (year month day : Int) : Int :=
  let year := year + (month - 1) / 12
  let month := (month - 1) % 12 + 1
  let fromMarch := if month ≤ 2 then year - 1 else year
  let era := fromMarch / 400
  let yearOfEra := fromMarch % 400
  let dayOfYear := (153 * ((month + 9) % 12) + 2) / 5
  era * 146097 + yearOfEra * 365 + yearOfEra / 4 - yearOfEra / 100 + dayOfYear - 306 + (day - 1)

/-- The civil fields of an instant; the clock counts seconds of the day. -/
structure Civil where
  year : Int
  month : Int
  day : Int
  clock : Int
  nanosecond : Int
  /-- `time.Weekday`, Sunday is 0 -/
  weekday : Int
deriving DecidableEq

/-- The fields of `t.In(loc)`. -/
def civilIn (loc : Location) (t : Int) : Civil :=
  let seconds := t / second + (loc.lookup (t / second)).offset
  let date := civil (seconds / 86400)
  ⟨date.1, date.2.1, date.2.2, seconds % 86400, t % second, (seconds / 86400 + 1) % 7⟩

/-- `time.Date`: the offset is looked up at the civil second, and again if that second is not in the span found. -/
def dateIn (loc : Location) (year month day clock nanosecond : Int) : Int :=
  let seconds := dayNumber year month day * 86400 + clock
  let span := loc.lookup seconds
  let resolved :=
    if span.offset = 0 then seconds
    else if seconds - span.offset < span.start ∨ span.stop ≤ seconds - span.offset then
      seconds - (loc.lookup (seconds - span.offset)).offset
    else seconds - span.offset
  resolved * second + nanosecond

/-- `t.AddDate(0, months, days)` in the location. -/
def addDateIn (loc : Location) (t months days : Int) : Int :=
  let fields := civilIn loc t
  dateIn loc fields.year (fields.month + months) (fields.day + days) fields.clock fields.nanosecond

example : (civil (dayNumber 2028 2 29), civil (dayNumber 2027 14 30)) = ((2028, 2, 29), (2028, 3, 1)) := by decide

theorem dateIn_nanosecond {nanosecond : Int} (small : 0 ≤ nanosecond ∧ nanosecond < second) (loc : Location)
    (year month day clock : Int) : dateIn loc year month day clock nanosecond % second = nanosecond := by
  unfold dateIn second at *
  dsimp only
  omega

theorem addDateIn_nanosecond (loc : Location) (t months days : Int) :
    addDateIn loc t months days % second = t % second := by
  have small : 0 ≤ t % second ∧ t % second < second := by
    unfold second
    omega
  exact dateIn_nanosecond small loc _ _ _ _

end GoTime
