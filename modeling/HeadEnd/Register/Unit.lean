/-! # Units

The physical units of register values, with their codes and symbols.
-/

namespace HeadEnd

inductive MeasureUnit where
  | year
  | month
  | week
  | day
  | hour
  | minute
  | second
  | degree
  | degreeCelsius
  | currency
  | metre
  | metrePerSecond
  | cubicMetre
  | cubicMetreCorrected
  | cubicMetrePerHour
  | cubicMetreCorrectedPerHour
  | cubicMetrePerDay
  | cubicMetreCorrectedPerDay
  | litre
  | kilogram
  | newton
  | newtonMetre
  | pascal
  | bar
  | joule
  | joulePerHour
  | watt
  | voltAmpere
  | var
  | wattHour
  | voltAmpereHour
  | varHour
  | ampere
  | coulomb
  | volt
  | voltPerMetre
  | farad
  | ohm
  | ohmSquareMetrePerMetre
  | weber
  | tesla
  | amperePerMetre
  | henry
  | hertz
  | activeEnergyMeterConstant
  | reactiveEnergyMeterConstant
  | apparentEnergyMeterConstant
  | voltSquaredHour
  | ampereSquaredHour
  | kilogramPerSecond
  | siemens
  | kelvin
  | voltSquaredHourMeterConstant
  | ampereSquaredHourMeterConstant
  | volumeMeterConstant
  | percentage
  | ampereHour
  | energyPerVolume
  | calorificValue
  | molePercent
  | reserved
  | other
  | count
  /-- A code that stands for no unit. -/
  | undefined
  deriving DecidableEq

namespace MeasureUnit

/-- The units with their codes and symbols. -/
def table : List (UInt8 × MeasureUnit × String) :=
  [(1, year, "a"), (2, month, "mo"), (3, week, "wk"), (4, day, "d"), (5, hour, "h"),
    (6, minute, "min"), (7, second, "s"), (8, degree, "°"), (9, degreeCelsius, "°C"),
    (10, currency, "currency"), (11, metre, "m"), (12, metrePerSecond, "m/s"),
    (13, cubicMetre, "m³"), (14, cubicMetreCorrected, "m³ corr"),
    (15, cubicMetrePerHour, "m³/h"), (16, cubicMetreCorrectedPerHour, "m³/h corr"),
    (17, cubicMetrePerDay, "m³/d"), (18, cubicMetreCorrectedPerDay, "m³/d corr"),
    (19, litre, "l"), (20, kilogram, "kg"), (21, newton, "N"), (22, newtonMetre, "Nm"),
    (23, pascal, "Pa"), (24, bar, "bar"), (25, joule, "J"), (26, joulePerHour, "J/h"),
    (27, watt, "W"), (28, voltAmpere, "VA"), (29, var, "var"), (30, wattHour, "Wh"),
    (31, voltAmpereHour, "VAh"), (32, varHour, "varh"), (33, ampere, "A"), (34, coulomb, "C"),
    (35, volt, "V"), (36, voltPerMetre, "V/m"), (37, farad, "F"), (38, ohm, "Ω"),
    (39, ohmSquareMetrePerMetre, "Ωm²/m"), (40, weber, "Wb"), (41, tesla, "T"),
    (42, amperePerMetre, "A/m"), (43, henry, "H"), (44, hertz, "Hz"),
    (45, activeEnergyMeterConstant, "1/(Wh)"), (46, reactiveEnergyMeterConstant, "1/(varh)"),
    (47, apparentEnergyMeterConstant, "1/(VAh)"), (48, voltSquaredHour, "V²h"),
    (49, ampereSquaredHour, "A²h"), (50, kilogramPerSecond, "kg/s"), (51, siemens, "S"),
    (52, kelvin, "K"), (53, voltSquaredHourMeterConstant, "1/(V²h)"),
    (54, ampereSquaredHourMeterConstant, "1/(A²h)"), (55, volumeMeterConstant, "1/m³"),
    (56, percentage, "%"), (57, ampereHour, "Ah"), (60, energyPerVolume, "Wh/m³"),
    (61, calorificValue, "J/m³"), (62, molePercent, "mol%"), (253, reserved, "reserved"),
    (254, other, "other"), (255, count, "count")]

def all : List MeasureUnit :=
  table.map (fun row => row.2.1) ++ [undefined]

def ofCode (code : Int64) : MeasureUnit :=
  match table.find? fun row => (row.1.toNat : Int) == code.toInt with
  | some (_, unit, _) => unit
  | none => undefined

def row? (unit : MeasureUnit) : Option (UInt8 × MeasureUnit × String) :=
  table.find? fun row => row.2.1 == unit

def code? (unit : MeasureUnit) : Option UInt8 :=
  unit.row?.map fun row => row.1

def symbol (unit : MeasureUnit) : String :=
  match unit.row? with
  | some (_, _, symbol) => symbol
  | none => "undefined"

def name : MeasureUnit → String
  | year => "Year"
  | month => "Month"
  | week => "Week"
  | day => "Day"
  | hour => "Hour"
  | minute => "Minute"
  | second => "Second"
  | degree => "Degree"
  | degreeCelsius => "DegreeCelsius"
  | currency => "Currency"
  | metre => "Metre"
  | metrePerSecond => "MetrePerSecond"
  | cubicMetre => "CubicMetre"
  | cubicMetreCorrected => "CubicMetreCorrected"
  | cubicMetrePerHour => "CubicMetrePerHour"
  | cubicMetreCorrectedPerHour => "CubicMetreCorrectedPerHour"
  | cubicMetrePerDay => "CubicMetrePerDay"
  | cubicMetreCorrectedPerDay => "CubicMetreCorrectedPerDay"
  | litre => "Litre"
  | kilogram => "Kilogram"
  | newton => "Newton"
  | newtonMetre => "NewtonMetre"
  | pascal => "Pascal"
  | bar => "Bar"
  | joule => "Joule"
  | joulePerHour => "JoulePerHour"
  | watt => "Watt"
  | voltAmpere => "VoltAmpere"
  | var => "Var"
  | wattHour => "WattHour"
  | voltAmpereHour => "VoltAmpereHour"
  | varHour => "VarHour"
  | ampere => "Ampere"
  | coulomb => "Coulomb"
  | volt => "Volt"
  | voltPerMetre => "VoltPerMetre"
  | farad => "Farad"
  | ohm => "Ohm"
  | ohmSquareMetrePerMetre => "OhmSquareMetrePerMetre"
  | weber => "Weber"
  | tesla => "Tesla"
  | amperePerMetre => "AmperePerMetre"
  | henry => "Henry"
  | hertz => "Hertz"
  | activeEnergyMeterConstant => "ActiveEnergyMeterConstant"
  | reactiveEnergyMeterConstant => "ReactiveEnergyMeterConstant"
  | apparentEnergyMeterConstant => "ApparentEnergyMeterConstant"
  | voltSquaredHour => "VoltSquaredHour"
  | ampereSquaredHour => "AmpereSquaredHour"
  | kilogramPerSecond => "KilogramPerSecond"
  | siemens => "Siemens"
  | kelvin => "Kelvin"
  | voltSquaredHourMeterConstant => "VoltSquaredHourMeterConstant"
  | ampereSquaredHourMeterConstant => "AmpereSquaredHourMeterConstant"
  | volumeMeterConstant => "VolumeMeterConstant"
  | percentage => "Percentage"
  | ampereHour => "AmpereHour"
  | energyPerVolume => "EnergyPerVolume"
  | calorificValue => "CalorificValue"
  | molePercent => "MolePercent"
  | reserved => "Reserved"
  | other => "Other"
  | count => "Count"
  | undefined => "Undefined"

end MeasureUnit

end HeadEnd
