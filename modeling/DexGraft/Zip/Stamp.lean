/-!
Times as archives keep them: two numbers of sixteen bits, one for the time of
day in steps of two seconds and one for the day from 1980 on. `ofStamp` reads
the parts out of any such pair, impossible months included, and `toStamp` puts
them together again; a year before 1980 gives the earliest day there is.
-/
namespace DexGraft.Zip

structure Stamp where
  time : Int
  date : Int
  deriving DecidableEq

structure Calendar where
  year : Int
  month : Int
  day : Int
  hour : Int
  minute : Int
  second : Int
  deriving DecidableEq

def Stamp.earliest : Stamp := ⟨0, 0x21⟩

def Calendar.ofStamp (stamp : Stamp) : Calendar :=
  { year := stamp.date / 512 + 1980
    month := stamp.date / 32 % 16
    day := stamp.date % 32
    hour := stamp.time / 2048
    minute := stamp.time / 32 % 64
    second := stamp.time % 32 * 2 }

def Calendar.toStamp (moment : Calendar) : Stamp :=
  if moment.year < 1980 then Stamp.earliest
  else
    { time := moment.hour * 2048 + moment.minute * 32 + moment.second / 2
      date := (moment.year - 1980) * 512 + moment.month * 32 + moment.day }

theorem toStamp_ofStamp (stamp : Stamp) (day : 0 ≤ stamp.date) :
    (Calendar.ofStamp stamp).toStamp = stamp := by
  obtain ⟨time, date⟩ := stamp
  simp only at day
  have recent : ¬date / 512 + 1980 < 1980 := by omega
  simp only [Calendar.ofStamp, Calendar.toStamp, recent, if_false, Stamp.mk.injEq]
  omega

end DexGraft.Zip
