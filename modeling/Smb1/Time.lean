import Smb1.Error

/-! The two time formats of the protocol, as Unix milliseconds. File times count 100 ns ticks from
1601; the older fields count seconds from 1970 in the zone's own time. -/
namespace Smb1.Time

/-- Milliseconds from 1601-01-01 to 1970-01-01. -/
def epochShift : Int := 11644473600000

def hour : Int := 3600000

/-- A zero file time means that no time is set, and stays zero. -/
def ofFileTime (ticks : UInt64) : Int :=
  if ticks = 0 then 0 else (ticks.toNat / 10000 : Nat) - epochShift

/-- Times before 1601 become the first instant that the format has. Times after the last instant
that it has are refused. -/
def toFileTime (millis : Int) : Except Error UInt64 :=
  let ticks := if millis = 0 then 0 else (millis + epochShift).toNat * 10000
  if ticks < UInt64.size then .ok (UInt64.ofNat ticks) else .error (.outOfRange (.fileTime millis))

/-- Whether daylight saving holds at a time. -/
abbrev Zone := Int → Bool

namespace Zone

def standard : Zone := fun _ => false

/-- Daylight saving from `start` up to, and without, `stop`. -/
def daylight (start stop : Int) : Zone := fun millis => start ≤ millis && millis < stop

end Zone

/-- The value of a seconds field without a time. -/
def unset : UInt32 := 0xFFFFFFFF

def ofSeconds (seconds : UInt32) : Int :=
  if seconds = 0 ∨ seconds = unset then 0 else seconds.toNat * 1000

/-- `millis` moved by the hour that lies between it and `now` when only one of them falls into
daylight saving. -/
def corrected (millis now : Int) (zone : Zone) : Int :=
  match zone now, zone millis with
  | true, false => millis - hour
  | false, true => millis + hour
  | _, _ => millis

/-- The corrected time in seconds. Times are 64-bit numbers, also after the correction; of the
seconds, the field keeps the low half. -/
def toSeconds (millis now : Int) (zone : Zone) : Except Error UInt32 :=
  if millis = 0 ∨ millis = -1 then .ok unset
  else
    let time := corrected millis now zone
    if Int64.minValue.toInt ≤ time ∧ time ≤ Int64.maxValue.toInt then
      .ok (UInt32.ofInt (time.tdiv 1000))
    else .error (.outOfRange (.daylight millis))

/-- The server's offset from UTC in minutes, sent as a two's complement word. -/
def zoneMinutes (raw : UInt16) : Int16 := raw.toInt16

end Smb1.Time
