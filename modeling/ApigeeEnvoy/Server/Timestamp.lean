/-
  ApigeeEnvoy.Server.Timestamp — `pbTimestampToApigee` and `pbTimestampAddDurationApigee`
  (accesslog.go): the milliseconds since the epoch of a protobuf `Timestamp`, alone or plus a
  protobuf `Duration`, as the access log records them.

  The code goes through Go's `time` package: `AsTime` (`time.Unix`), `AsDuration` (a
  `time.Duration`, an int64 of nanoseconds, saturated when the duration does not fit),
  `Time.Add`, and `UnixNano() / 1e6`. Go's int64 arithmetic wraps (`toInt64`) and its
  division truncates toward zero (`Int.tdiv`); `time.Time` is modelled by what these
  functions read of it (`ext`, the int64 seconds since year 1, and `nsec`).

  Proved, for every valid timestamp and every duration, nil, invalid or valid:
  - `asDuration_eq`: `AsDuration` is the exact nanosecond count of a valid duration when it
    fits in int64, and `MaxInt64` or `MinInt64` otherwise;
  - `unixNano_asTime`, `unixNano_add_asTime`: `UnixNano` of the timestamp, plus an int64
    duration, is the exact nanosecond count wrapped to int64;
  - `pbTimestamp_millis`: so the milliseconds are, for every input, the nanosecond count plus
    the saturated duration (`Duration.saturatedNanos`), wrapped to int64 and divided by 10^6
    toward zero: the exact count divided by 10^6 whenever the count and the duration fit, which
    is the floor from 1970 on;
  - `pbTimestampAddDurationApigee_of_not_checkValid`: a nil or invalid duration adds nothing;
  - `pbTimestampAddDurationApigee_mono`: short of an overflow, durations in order give
    milliseconds in order.
  The code's comments say both functions return milliseconds since the epoch. That fails at
  the edges of the valid range (`pbTimestamp_not_ms_since_epoch`): after 2262-04-11 the
  nanosecond count wraps and the result is negative, a valid duration beyond 292 years
  saturates, and before 1970 the quotient is truncated, not floored.
-/

import Mathlib.Tactic.SplitIfs

namespace ApigeeEnvoy.Server

/-- Go's int64 arithmetic: the result wrapped into [-2^63, 2^63). -/
def toInt64 (x : Int) : Int := (x + 9223372036854775808) % 18446744073709551616 - 9223372036854775808

/-- `x` fits in an int64. -/
def InInt64 (x : Int) : Prop := -9223372036854775808 ≤ x ∧ x < 9223372036854775808

instance (x : Int) : Decidable (InInt64 x) := inferInstanceAs (Decidable (_ ∧ _))

theorem toInt64_of_inInt64 {x : Int} (h : InInt64 x) : toInt64 x = x := by
  unfold InInt64 at h; unfold toInt64; omega

theorem inInt64_toInt64 (x : Int) : InInt64 (toInt64 x) := by
  unfold InInt64 toInt64; omega

/-- Truncating division by a positive constant, in terms `omega` reads. -/
theorem tdiv_eq_ite (x : Int) {c : Int} (hc : 0 ≤ c) :
    Int.tdiv x c = if 0 ≤ x then x / c else -((-x) / c) := by
  split
  · exact Int.tdiv_eq_ediv ‹_› hc
  · rw [← Int.tdiv_eq_ediv (by omega) hc, Int.neg_tdiv, Int.neg_neg]

/-! ## Protobuf and `time` -/

/-- `timestamppb.Timestamp` (`nil` is `none` where the code takes a pointer). -/
structure Timestamp where
  seconds : Int
  nanos : Int
  deriving DecidableEq, Repr

/-- `durationpb.Duration`. -/
structure Duration where
  seconds : Int
  nanos : Int
  deriving DecidableEq, Repr

/-- `(*Timestamp).CheckValid() == nil`: not nil, from 0001-01-01 to 9999-12-31T23:59:59, and
    `0 ≤ nanos < 1e9`. -/
def Timestamp.checkValid : Option Timestamp → Bool
  | none => false
  | some x => decide (-62135596800 ≤ x.seconds ∧ x.seconds ≤ 253402300799 ∧ 0 ≤ x.nanos ∧ x.nanos < 1000000000)

/-- `(*Duration).CheckValid() == nil`: not nil, at most 10000 years either way, `|nanos| < 1e9`,
    and `nanos` not of the opposite sign to `seconds`. -/
def Duration.checkValid : Option Duration → Bool
  | none => false
  | some x => decide (-315576000000 ≤ x.seconds ∧ x.seconds ≤ 315576000000 ∧
      -1000000000 < x.nanos ∧ x.nanos < 1000000000 ∧ ¬(0 < x.seconds ∧ x.nanos < 0) ∧ ¬(x.seconds < 0 ∧ 0 < x.nanos))

/-- `(*Duration).AsDuration()`: nanoseconds as an int64 `time.Duration`, the closest one when
    it overflows. The getters of a nil duration read 0. -/
def Duration.asDuration : Option Duration → Int
  | none => 0
  | some x =>
    let d := toInt64 (x.seconds * 1000000000)
    let overflow := decide (Int.tdiv d 1000000000 ≠ x.seconds)
    let d := toInt64 (d + x.nanos)
    let overflow := overflow || decide (x.seconds < 0 ∧ x.nanos < 0 ∧ 0 < d) ||
      decide (0 < x.seconds ∧ 0 < x.nanos ∧ d < 0)
    if overflow then
      if x.seconds < 0 then -9223372036854775808
      else if 0 < x.seconds then 9223372036854775807
      else d
    else d

/-- `unixToInternal`: seconds from 0001-01-01 to 1970-01-01. -/
def unixToInternal : Int := 62135596800

/-- `time.Time` as these functions use it: `ext`, the int64 seconds since year 1, and `nsec`. -/
structure Time where
  ext : Int
  nsec : Int
  deriving DecidableEq, Repr

/-- `time.Unix(sec, nsec)`: `nsec` brought into [0, 1e9), then `unixTime`. -/
def unix (sec nsec : Int) : Time :=
  let (sec, nsec) :=
    if nsec < 0 ∨ 1000000000 ≤ nsec then
      let n := Int.tdiv nsec 1000000000
      let sec := toInt64 (sec + n)
      let nsec := nsec - n * 1000000000
      if nsec < 0 then (toInt64 (sec - 1), nsec + 1000000000) else (sec, nsec)
    else (sec, nsec)
  ⟨toInt64 (sec + unixToInternal), nsec⟩

/-- `(*Timestamp).AsTime()`. -/
def Timestamp.asTime : Option Timestamp → Time
  | none => unix 0 0
  | some x => unix x.seconds x.nanos

/-- `Time.Add(d)` (go 1.17: `addSec` adds to `ext` without an overflow check). -/
def Time.add (t : Time) (d : Int) : Time :=
  let dsec := Int.tdiv d 1000000000
  let nsec := t.nsec + Int.tmod d 1000000000
  let (dsec, nsec) :=
    if 1000000000 ≤ nsec then (dsec + 1, nsec - 1000000000)
    else if nsec < 0 then (dsec - 1, nsec + 1000000000)
    else (dsec, nsec)
  ⟨toInt64 (t.ext + dsec), nsec⟩

/-- `Time.UnixNano()`: `unixSec()*1e9 + nsec` in int64 arithmetic. -/
def Time.unixNano (t : Time) : Int :=
  toInt64 (toInt64 (t.ext - unixToInternal) * 1000000000 + t.nsec)

/-- `timeToApigeeInt`: `t.UnixNano() / (int64(time.Millisecond) / int64(time.Nanosecond))`. -/
def timeToApigeeInt (t : Time) : Int := Int.tdiv t.unixNano 1000000

def pbTimestampToApigee (ts : Option Timestamp) : Int :=
  if !Timestamp.checkValid ts then 0 else timeToApigeeInt (Timestamp.asTime ts)

def pbTimestampAddDurationApigee (ts : Option Timestamp) (d : Option Duration) : Int :=
  if !Timestamp.checkValid ts then 0
  else
    let du := Duration.asDuration d
    let du := if !Duration.checkValid d then 0 else du
    timeToApigeeInt ((Timestamp.asTime ts).add du)

/-! ## Valid inputs -/

theorem tdiv_inInt64 {m : Int} (hm : InInt64 m) :
    -9223372037 < Int.tdiv m 1000000000 ∧ Int.tdiv m 1000000000 < 9223372037 := by
  unfold InInt64 at hm; rw [tdiv_eq_ite _ (by decide)]; split <;> omega

theorem asDuration_of_inInt64 {x : Duration} (h : Duration.checkValid (some x) = true)
    (hD : InInt64 (x.seconds * 1000000000 + x.nanos)) :
    Duration.asDuration (some x) = x.seconds * 1000000000 + x.nanos := by
  simp only [Duration.checkValid, decide_eq_true_eq] at h
  have hA : InInt64 (x.seconds * 1000000000) := by unfold InInt64 at *; omega
  simp only [Duration.asDuration, Bool.or_eq_true, decide_eq_true_eq, toInt64_of_inInt64 hA,
    Int.mul_tdiv_cancel _ (show (1000000000 : Int) ≠ 0 by decide), toInt64_of_inInt64 hD]
  unfold InInt64 at hD
  split_ifs <;> omega

theorem asDuration_of_not_inInt64 {x : Duration} (h : Duration.checkValid (some x) = true)
    (hD : ¬ InInt64 (x.seconds * 1000000000 + x.nanos)) :
    Duration.asDuration (some x) = if 0 < x.seconds then 9223372036854775807 else -9223372036854775808 := by
  simp only [Duration.checkValid, decide_eq_true_eq] at h
  simp only [Duration.asDuration, Bool.or_eq_true, decide_eq_true_eq]
  unfold InInt64 at hD
  by_cases hA : InInt64 (x.seconds * 1000000000)
  · -- the seconds fit: adding the nanoseconds crosses the bound, the sign check sees it
    have hw : toInt64 (x.seconds * 1000000000 + x.nanos) =
        x.seconds * 1000000000 + x.nanos - 18446744073709551616 ∨
        toInt64 (x.seconds * 1000000000 + x.nanos) = x.seconds * 1000000000 + x.nanos + 18446744073709551616 := by
      unfold InInt64 at hA; unfold toInt64; omega
    simp only [toInt64_of_inInt64 hA, Int.mul_tdiv_cancel _ (show (1000000000 : Int) ≠ 0 by decide)]
    have hr := inInt64_toInt64 (x.seconds * 1000000000 + x.nanos)
    generalize toInt64 (x.seconds * 1000000000 + x.nanos) = w at hw hr ⊢
    unfold InInt64 at hA hr
    split_ifs <;> omega
  · -- the seconds alone overflow: dividing back does not give them
    have hq := tdiv_inInt64 (inInt64_toInt64 (x.seconds * 1000000000))
    unfold InInt64 at hA
    split_ifs <;> omega

theorem asDuration_eq (x : Duration) (h : Duration.checkValid (some x) = true) :
    Duration.asDuration (some x) =
      if InInt64 (x.seconds * 1000000000 + x.nanos) then x.seconds * 1000000000 + x.nanos
      else if 0 < x.seconds then 9223372036854775807 else -9223372036854775808 := by
  by_cases hD : InInt64 (x.seconds * 1000000000 + x.nanos)
  · rw [if_pos hD, asDuration_of_inInt64 h hD]
  · rw [if_neg hD, asDuration_of_not_inInt64 h hD]

/-- Ten thousand years do not fit in int64 nanoseconds. -/
theorem asDuration_ten_millennia :
    Duration.checkValid (some ⟨315576000000, 0⟩) = true ∧
    Duration.asDuration (some ⟨315576000000, 0⟩) = 9223372036854775807 :=
  ⟨by decide, (asDuration_eq _ (by decide)).trans (by decide)⟩

/-- A valid timestamp's seconds, moved to year 1, fit: `AsTime` normalises nothing. -/
theorem asTime_of_checkValid {x : Timestamp} (h : Timestamp.checkValid (some x) = true) :
    Timestamp.asTime (some x) = ⟨x.seconds + unixToInternal, x.nanos⟩ := by
  simp only [Timestamp.checkValid, decide_eq_true_eq] at h
  simp only [Timestamp.asTime, unix]
  rw [if_neg (by omega), toInt64_of_inInt64 (by unfold InInt64 unixToInternal; omega)]

theorem unixNano_mk (e n : Int) (he : InInt64 e) (hu : InInt64 (e - unixToInternal)) :
    (⟨toInt64 e, n⟩ : Time).unixNano = toInt64 ((e - unixToInternal) * 1000000000 + n) := by
  rw [Time.unixNano, toInt64_of_inInt64 he, toInt64_of_inInt64 hu]

/-- `Add` of an int64 duration to a time between year 1 and year 12000: the nanosecond count
    since 1970 is the sum, wrapped once. -/
theorem add_unixNano (t : Time) (du : Int) (hn : 0 ≤ t.nsec ∧ t.nsec < 1000000000)
    (he : 0 ≤ t.ext ∧ t.ext ≤ 400000000000) (hd : InInt64 du) :
    (t.add du).unixNano = toInt64 ((t.ext - unixToInternal) * 1000000000 + t.nsec + du) := by
  have hq := tdiv_eq_ite du (c := 1000000000) (by decide)
  have hr := Int.tmod_def du 1000000000
  unfold InInt64 at hd
  simp only [Time.add]
  generalize Int.tdiv du 1000000000 = q at hq hr ⊢
  generalize Int.tmod du 1000000000 = r at hr ⊢
  split_ifs at hq ⊢ <;>
  rw [unixNano_mk _ _ (by unfold InInt64; omega) (by unfold InInt64 unixToInternal; omega)] <;>
  congr 1 <;> omega

theorem unixNano_asTime {x : Timestamp} (h : Timestamp.checkValid (some x) = true) :
    (Timestamp.asTime (some x)).unixNano = toInt64 (x.seconds * 1000000000 + x.nanos) := by
  have hs : InInt64 x.seconds := by
    simp only [Timestamp.checkValid, decide_eq_true_eq] at h; unfold InInt64; omega
  rw [asTime_of_checkValid h, Time.unixNano, Int.add_sub_cancel, toInt64_of_inInt64 hs]

theorem unixNano_add_asTime {x : Timestamp} (h : Timestamp.checkValid (some x) = true) {du : Int}
    (hd : InInt64 du) :
    ((Timestamp.asTime (some x)).add du).unixNano = toInt64 (x.seconds * 1000000000 + x.nanos + du) := by
  have hx := h
  simp only [Timestamp.checkValid, decide_eq_true_eq] at hx
  rw [asTime_of_checkValid h, add_unixNano _ _ ⟨hx.2.2.1, hx.2.2.2⟩ (by simp only [unixToInternal]; omega) hd,
    Int.add_sub_cancel]

/-! ## The milliseconds -/

/-- The exact nanoseconds since 1970 of a timestamp. -/
def Timestamp.unixNanos (x : Timestamp) : Int := x.seconds * 1000000000 + x.nanos

/-- The exact nanoseconds of a duration that passes `CheckValid`, and 0 for any other. -/
def Duration.nanosOrZero (d : Option Duration) : Int :=
  if Duration.checkValid d then d.elim 0 fun y => y.seconds * 1000000000 + y.nanos else 0

/-- What `pbTimestampAddDurationApigee` adds, in closed form: the exact nanoseconds of a valid
    duration, saturated to int64, and 0 for a nil or invalid one. -/
def Duration.saturatedNanos : Option Duration → Int
  | none => 0
  | some x =>
    if !Duration.checkValid (some x) then 0
    else if InInt64 (x.seconds * 1000000000 + x.nanos) then x.seconds * 1000000000 + x.nanos
    else if 0 < x.seconds then 9223372036854775807 else -9223372036854775808

theorem checked_asDuration_eq (d : Option Duration) :
    (if !Duration.checkValid d then 0 else Duration.asDuration d) = Duration.saturatedNanos d := by
  cases d with
  | none => rfl
  | some x =>
    cases hv : Duration.checkValid (some x)
    · simp [Duration.saturatedNanos, hv]
    · by_cases hD : InInt64 (x.seconds * 1000000000 + x.nanos) <;>
        simp [Duration.saturatedNanos, hv, hD, asDuration_of_inInt64 hv, asDuration_of_not_inInt64 hv]

theorem inInt64_saturatedNanos (d : Option Duration) : InInt64 (Duration.saturatedNanos d) := by
  cases d with
  | none => decide
  | some x =>
    simp only [Duration.saturatedNanos]
    split_ifs <;> first | assumption | decide

theorem saturatedNanos_of_inInt64 (d : Option Duration) (hD : InInt64 (Duration.nanosOrZero d)) :
    Duration.saturatedNanos d = Duration.nanosOrZero d := by
  cases d with
  | none => rfl
  | some x =>
    cases hv : Duration.checkValid (some x)
    · simp [Duration.saturatedNanos, Duration.nanosOrZero, hv]
    · have hD' : InInt64 (x.seconds * 1000000000 + x.nanos) := by
        simpa [Duration.nanosOrZero, hv] using hD
      simp [Duration.saturatedNanos, Duration.nanosOrZero, hv, hD']

theorem pbTimestampToApigee_eq {ts : Timestamp} (hts : Timestamp.checkValid (some ts) = true) :
    pbTimestampToApigee (some ts) = Int.tdiv (toInt64 ts.unixNanos) 1000000 := by
  simp only [pbTimestampToApigee, hts, Bool.not_true, timeToApigeeInt, unixNano_asTime hts]
  rfl

theorem pbTimestampAddDurationApigee_eq {ts : Timestamp} (hts : Timestamp.checkValid (some ts) = true)
    (d : Option Duration) :
    pbTimestampAddDurationApigee (some ts) d =
      Int.tdiv (toInt64 (ts.unixNanos + Duration.saturatedNanos d)) 1000000 := by
  simp only [pbTimestampAddDurationApigee, hts, Bool.not_true, timeToApigeeInt, checked_asDuration_eq d]
  rw [unixNano_add_asTime hts (inInt64_saturatedNanos d)]
  rfl

theorem pbTimestampAddDurationApigee_eq_tdiv {ts : Timestamp} {d : Option Duration}
    (hts : Timestamp.checkValid (some ts) = true) (hD : InInt64 (Duration.nanosOrZero d))
    (hND : InInt64 (ts.unixNanos + Duration.nanosOrZero d)) :
    pbTimestampAddDurationApigee (some ts) d = Int.tdiv (ts.unixNanos + Duration.nanosOrZero d) 1000000 := by
  rw [pbTimestampAddDurationApigee_eq hts, saturatedNanos_of_inInt64 d hD, toInt64_of_inInt64 hND]

/-- For every valid timestamp, the milliseconds are the truncated quotient of the wrapped
    nanosecond count, plus the saturated duration; the exact count's quotient when it fits. -/
theorem pbTimestamp_millis (ts : Timestamp) (d : Option Duration) (hts : Timestamp.checkValid (some ts) = true) :
    pbTimestampToApigee (some ts) = Int.tdiv (toInt64 ts.unixNanos) 1000000 ∧
    pbTimestampAddDurationApigee (some ts) d =
      Int.tdiv (toInt64 (ts.unixNanos + Duration.saturatedNanos d)) 1000000 ∧
    (InInt64 ts.unixNanos → pbTimestampToApigee (some ts) = Int.tdiv ts.unixNanos 1000000) ∧
    (InInt64 (Duration.nanosOrZero d) → InInt64 (ts.unixNanos + (Duration.nanosOrZero d)) →
      pbTimestampAddDurationApigee (some ts) d = Int.tdiv (ts.unixNanos + (Duration.nanosOrZero d)) 1000000) ∧
    (0 ≤ ts.seconds → ts.unixNanos < 9223372036854775808 →
      pbTimestampToApigee (some ts) = ts.seconds * 1000 + ts.nanos / 1000000) ∧
    (InInt64 (Duration.nanosOrZero d) → 0 ≤ ts.unixNanos + (Duration.nanosOrZero d) →
      ts.unixNanos + (Duration.nanosOrZero d) < 9223372036854775808 →
      pbTimestampAddDurationApigee (some ts) d = (ts.unixNanos + (Duration.nanosOrZero d)) / 1000000) := by
  have hx := hts
  simp only [Timestamp.checkValid, decide_eq_true_eq] at hx
  have hto (hN : InInt64 ts.unixNanos) : pbTimestampToApigee (some ts) = Int.tdiv ts.unixNanos 1000000 := by
    rw [pbTimestampToApigee_eq hts, toInt64_of_inInt64 hN]
  refine ⟨pbTimestampToApigee_eq hts, pbTimestampAddDurationApigee_eq hts d, hto,
    pbTimestampAddDurationApigee_eq_tdiv hts, fun hs hN => ?_, fun hD h0 hN => ?_⟩
  · rw [hto (by unfold InInt64 Timestamp.unixNanos at *; omega),
      Int.tdiv_eq_ediv (by unfold Timestamp.unixNanos; omega) (by decide)]
    unfold Timestamp.unixNanos; omega
  · rw [pbTimestampAddDurationApigee_eq_tdiv hts hD (by unfold InInt64; omega), Int.tdiv_eq_ediv h0 (by decide)]

/-- A request of 2023 whose last byte came 2.5 s after it started. -/
theorem pbTimestamp_millis_2023 :
    Timestamp.checkValid (some ⟨1700000000, 123456789⟩) = true ∧
    pbTimestampToApigee (some ⟨1700000000, 123456789⟩) =
      Int.tdiv (toInt64 (Timestamp.unixNanos ⟨1700000000, 123456789⟩)) 1000000 ∧
    pbTimestampAddDurationApigee (some ⟨1700000000, 123456789⟩) (some ⟨2, 500000000⟩) =
      Int.tdiv (toInt64 (Timestamp.unixNanos ⟨1700000000, 123456789⟩ +
        Duration.saturatedNanos (some ⟨2, 500000000⟩))) 1000000 ∧
    (InInt64 (Timestamp.unixNanos ⟨1700000000, 123456789⟩) →
      pbTimestampToApigee (some ⟨1700000000, 123456789⟩) =
        Int.tdiv (Timestamp.unixNanos ⟨1700000000, 123456789⟩) 1000000) ∧
    (InInt64 (Duration.nanosOrZero (some ⟨2, 500000000⟩)) →
      InInt64 (Timestamp.unixNanos ⟨1700000000, 123456789⟩ + Duration.nanosOrZero (some ⟨2, 500000000⟩)) →
      pbTimestampAddDurationApigee (some ⟨1700000000, 123456789⟩) (some ⟨2, 500000000⟩) =
        Int.tdiv (Timestamp.unixNanos ⟨1700000000, 123456789⟩ + Duration.nanosOrZero (some ⟨2, 500000000⟩))
          1000000) ∧
    (0 ≤ (1700000000 : Int) → Timestamp.unixNanos ⟨1700000000, 123456789⟩ < 9223372036854775808 →
      pbTimestampToApigee (some ⟨1700000000, 123456789⟩) = 1700000000 * 1000 + 123456789 / 1000000) ∧
    (InInt64 (Duration.nanosOrZero (some ⟨2, 500000000⟩)) →
      0 ≤ Timestamp.unixNanos ⟨1700000000, 123456789⟩ + Duration.nanosOrZero (some ⟨2, 500000000⟩) →
      Timestamp.unixNanos ⟨1700000000, 123456789⟩ + Duration.nanosOrZero (some ⟨2, 500000000⟩) <
        9223372036854775808 →
      pbTimestampAddDurationApigee (some ⟨1700000000, 123456789⟩) (some ⟨2, 500000000⟩) =
        (Timestamp.unixNanos ⟨1700000000, 123456789⟩ + Duration.nanosOrZero (some ⟨2, 500000000⟩)) / 1000000) :=
  ⟨by decide, pbTimestamp_millis ⟨1700000000, 123456789⟩ (some ⟨2, 500000000⟩) (by decide)⟩

/-- Valid inputs whose milliseconds are not the milliseconds since the epoch: 2262-04-11T23:47:17Z,
    whose nanosecond count wraps (9223372037000 ms since the epoch); the epoch plus a valid
    duration of ten thousand years, which saturates (315576000000000 ms); and half a millisecond
    before 1970, truncated toward zero (the floor is -500 ms). -/
theorem pbTimestamp_not_ms_since_epoch :
    Timestamp.checkValid (some ⟨9223372037, 0⟩) = true ∧
    pbTimestampToApigee (some ⟨9223372037, 0⟩) = -9223372036709 ∧
    Timestamp.checkValid (some ⟨0, 0⟩) = true ∧ Duration.checkValid (some ⟨315576000000, 0⟩) = true ∧
    pbTimestampAddDurationApigee (some ⟨0, 0⟩) (some ⟨315576000000, 0⟩) = 9223372036854 ∧
    Timestamp.checkValid (some ⟨-1, 500000001⟩) = true ∧
    pbTimestampToApigee (some ⟨-1, 500000001⟩) = -499 := by
  decide

/-! ## Durations that add nothing, durations in order -/

/-- A nil or invalid duration adds nothing: the result is the timestamp's own, for every
    timestamp, valid or not. -/
theorem pbTimestampAddDurationApigee_of_not_checkValid (ts : Option Timestamp) (d : Option Duration)
    (hd : Duration.checkValid d = false) :
    pbTimestampAddDurationApigee ts d = pbTimestampToApigee ts := by
  cases hts : Timestamp.checkValid ts
  · simp [pbTimestampAddDurationApigee, pbTimestampToApigee, hts]
  · cases ts with
    | none => cases hts
    | some x =>
      simp only [pbTimestampAddDurationApigee, pbTimestampToApigee, hts, hd, Bool.not_true, Bool.not_false,
        if_true, timeToApigeeInt]
      rw [unixNano_add_asTime hts (by decide), unixNano_asTime hts, Int.add_zero]

theorem add_invalid_duration_2023 :
    Duration.checkValid (some ⟨1, -1⟩) = false ∧
    pbTimestampAddDurationApigee (some ⟨1700000000, 123456789⟩) (some ⟨1, -1⟩) =
      pbTimestampToApigee (some ⟨1700000000, 123456789⟩) :=
  ⟨by decide, pbTimestampAddDurationApigee_of_not_checkValid _ _ (by decide)⟩

/-- Truncating division by 10^6 keeps the order. -/
theorem tdiv_million_le {x y : Int} (h : x ≤ y) : Int.tdiv x 1000000 ≤ Int.tdiv y 1000000 := by
  rw [tdiv_eq_ite x (by decide), tdiv_eq_ite y (by decide)]
  split_ifs <;> omega

/-- Durations in order give milliseconds in order, as long as nothing overflows: the record's
    timestamps keep the order of Envoy's durations. -/
theorem pbTimestampAddDurationApigee_mono (ts : Timestamp) (d₁ d₂ : Option Duration)
    (hts : Timestamp.checkValid (some ts) = true)
    (h₁ : InInt64 (Duration.nanosOrZero d₁)) (h₂ : InInt64 (Duration.nanosOrZero d₂))
    (hs₁ : InInt64 (ts.unixNanos + Duration.nanosOrZero d₁)) (hs₂ : InInt64 (ts.unixNanos + Duration.nanosOrZero d₂))
    (hle : Duration.nanosOrZero d₁ ≤ Duration.nanosOrZero d₂) :
    pbTimestampAddDurationApigee (some ts) d₁ ≤ pbTimestampAddDurationApigee (some ts) d₂ := by
  rw [pbTimestampAddDurationApigee_eq_tdiv hts h₁ hs₁, pbTimestampAddDurationApigee_eq_tdiv hts h₂ hs₂]
  exact tdiv_million_le (by omega)

/-- The first byte received at 1 ms, the last at 2.5 s. -/
theorem mono_2023 :
    Timestamp.checkValid (some ⟨1700000000, 123456789⟩) = true ∧
    InInt64 (Duration.nanosOrZero (some ⟨0, 1000000⟩)) ∧ InInt64 (Duration.nanosOrZero (some ⟨2, 500000000⟩)) ∧
    InInt64 (Timestamp.unixNanos ⟨1700000000, 123456789⟩ + Duration.nanosOrZero (some ⟨0, 1000000⟩)) ∧
    InInt64 (Timestamp.unixNanos ⟨1700000000, 123456789⟩ + Duration.nanosOrZero (some ⟨2, 500000000⟩)) ∧
    Duration.nanosOrZero (some ⟨0, 1000000⟩) ≤ Duration.nanosOrZero (some ⟨2, 500000000⟩) ∧
    pbTimestampAddDurationApigee (some ⟨1700000000, 123456789⟩) (some ⟨0, 1000000⟩) ≤
      pbTimestampAddDurationApigee (some ⟨1700000000, 123456789⟩) (some ⟨2, 500000000⟩) :=
  ⟨by decide, by decide, by decide, by decide, by decide, by decide,
    pbTimestampAddDurationApigee_mono _ _ _ (by decide) (by decide) (by decide) (by decide) (by decide) (by decide)⟩

end ApigeeEnvoy.Server
