import Housekeeper.Error
import Housekeeper.Wire.ByteOrder

/-!
# Day-segmented time

Snapshots are stamped with a day count from 1958-01-01 and the milliseconds of that day. On the
wire a stamp takes seven bytes, always big endian: a constant field that names the time code, two
bytes of days and four of milliseconds.
-/

namespace Housekeeper

/-- A UTC instant. From `10 ^ 9` nanoseconds on it lies in the leap second after its second. -/
structure UtcInstant where
  /-- Seconds from 1970-01-01. -/
  seconds : Int
  nanos : Nat
deriving DecidableEq

namespace UtcInstant

def secondsPerDay : Int := 86400

/-- Instants of representable years; a leap second follows the last second of a minute only. -/
def ofUnix? (seconds : Int) (nanos : Nat) : Option UtcInstant :=
  if seconds < -8334601228800 ∨ 8210266876799 < seconds then none
  else if 2000000000 ≤ nanos then none
  else if 1000000000 ≤ nanos ∧ seconds % 60 ≠ 59 then none
  else some ⟨seconds, nanos⟩

/-- Whole milliseconds from 1970-01-01. -/
def unixMillis (instant : UtcInstant) : Int := instant.seconds * 1000 + instant.nanos / 1000000

def secondOfDay (instant : UtcInstant) : Nat := (instant.seconds % secondsPerDay).toNat

/-- Year, month and day of a day count from 1970-01-01, in the Gregorian calendar. -/
def civil (day : Int) : Int × Int × Int :=
  let shifted := day + 719468
  let era := shifted / 146097
  let dayOfEra := shifted % 146097
  let yearOfEra :=
    (dayOfEra - dayOfEra / 1460 + dayOfEra / 36524 - dayOfEra / 146096) / 365
  let dayOfYear := dayOfEra - (365 * yearOfEra + yearOfEra / 4 - yearOfEra / 100)
  let monthFromMarch := (5 * dayOfYear + 2) / 153
  let dayOfMonth := dayOfYear - (153 * monthFromMarch + 2) / 5 + 1
  let month := if monthFromMarch < 10 then monthFromMarch + 3 else monthFromMarch - 9
  (yearOfEra + era * 400 + (if month ≤ 2 then 1 else 0), month, dayOfMonth)

def padded (width value : Nat) : String :=
  let digits := Nat.toDigits 10 value
  String.ofList (List.replicate (width - digits.length) '0' ++ digits)

/-- Date and time to the millisecond; whole seconds are written without a fraction. -/
def text (instant : UtcInstant) : String :=
  let (year, month, day) := civil (instant.seconds / secondsPerDay)
  let second := instant.secondOfDay
  let millis := instant.nanos / 1000000
  padded 4 year.toNat ++ "-" ++ padded 2 month.toNat ++ "-" ++ padded 2 day.toNat ++ " " ++
    padded 2 (second / 3600) ++ ":" ++ padded 2 (second / 60 % 60) ++ ":" ++
    padded 2 (second % 60 + millis / 1000) ++
    (if millis % 1000 = 0 then "" else "." ++ padded 3 (millis % 1000)) ++ " UTC"

end UtcInstant

structure CdsTime where
  day : UInt16
  millis : UInt32
deriving DecidableEq

namespace CdsTime

/-- Bytes of a stamp on the wire. -/
def wireSize : Nat := 7

/-- The first byte of a stamp: epoch 1958, 16-bit days, no finer part than milliseconds. -/
def codeField : UInt8 := 0x40

def millisPerDay : Nat := 86400000

/-- The day number of 1970-01-01. -/
def unixEpochDay : Int := 4383

/-- Days outside of the 16-bit range go to its ends. Whole days are counted over the elapsed
time, an ongoing leap second included. -/
def ofInstant (instant : UtcInstant) : CdsTime :=
  let elapsed : Int :=
    (instant.seconds + unixEpochDay * UtcInstant.secondsPerDay) * 1000000000 + instant.nanos
  let days := elapsed.tdiv (UtcInstant.secondsPerDay * 1000000000)
  let millis := instant.secondOfDay * 1000 + instant.nanos / 1000000
  ⟨UInt16.ofNat (min days.toNat 65535), UInt32.ofNat (min millis (millisPerDay - 1))⟩

/-- Milliseconds beyond the end of the day run on into the days that follow. -/
def toInstant (time : CdsTime) : UtcInstant :=
  let millis : Int := (time.day.toNat - unixEpochDay) * millisPerDay + time.millis.toNat
  ⟨millis / 1000, (millis % 1000).toNat * 1000000⟩

def toBytes (time : CdsTime) : Bytes :=
  codeField :: ByteOrder.big.encode 2 time.day.toNat ++ ByteOrder.big.encode 4 time.millis.toNat

/-- The code field is not looked at, nor is anything after the stamp. -/
def ofBytes (bytes : Bytes) : Except PoolError CdsTime :=
  if bytes.length < wireSize then .error .streamTooShort
  else .ok
    ⟨UInt16.ofNat (ByteOrder.big.decode ((bytes.drop 1).take 2)),
     UInt32.ofNat (ByteOrder.big.decode ((bytes.drop 3).take 4))⟩

@[simp] theorem length_toBytes (time : CdsTime) : time.toBytes.length = wireSize := by
  simp [toBytes, wireSize]

theorem ofBytes_toBytes (time : CdsTime) (rest : Bytes) :
    ofBytes (time.toBytes ++ rest) = .ok time := by
  have days : time.day.toNat < Bytes.bound 2 := time.day.toNat_lt
  have millis : time.millis.toNat < Bytes.bound 4 := time.millis.toNat_lt
  have long : ¬ (time.toBytes ++ rest).length < wireSize := by simp
  have first : ((time.toBytes ++ rest).drop 1).take 2 = ByteOrder.big.encode 2 time.day.toNat := by
    simp [toBytes]
  have second :
      ((time.toBytes ++ rest).drop 3).take 4 = ByteOrder.big.encode 4 time.millis.toNat := by
    simp [toBytes]
  rw [ofBytes, if_neg long, first, second, ByteOrder.decode_encode _ days,
    ByteOrder.decode_encode _ millis, UInt16.ofNat_toNat, UInt32.ofNat_toNat]

end CdsTime

end Housekeeper
