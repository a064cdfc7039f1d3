/-!
# Alerts

The closed list of faults that the device reports. Every alert has a code, by which the operator
knows it, and a severity, by which the device ranks it; the two orders have nothing in common.
-/

namespace FieldCounter

/-- A fault that the operator can see. -/
inductive Alert where
  /-- The sensor could not be brought up or reports itself unhealthy. -/
  | sensorFault
  /-- The heap is exhausted. -/
  | outOfMemory
  /-- The radio could not be switched off in time. -/
  | modemFault
  /-- A deep sleep came back without restarting the device. -/
  | sleepFault
  /-- The power chip reports a battery fault. -/
  | batteryFault
  /-- The power chip reports a charging fault. -/
  | chargeFault
  /-- The power chip reports a thermal shutdown. -/
  | thermalFault
  /-- A connection was not up within its budget. -/
  | connectTimeout
  /-- The webhook has not answered for too long. -/
  | webhookStale
  /-- Part of the remote settings was refused. -/
  | configApplyFailed
  /-- A data snapshot could not be published. -/
  | dataPublishFailed
  /-- A status snapshot could not be published. -/
  | statusPublishFailed
  /-- The device has been offline longer than its schedule allows. -/
  | prolongedOffline
deriving DecidableEq, Repr

namespace Alert

/-- Every alert, the least severe first. -/
def bySeverity : List Alert :=
  [.webhookStale, .dataPublishFailed, .statusPublishFailed, .configApplyFailed, .sensorFault,
   .prolongedOffline, .connectTimeout, .modemFault, .sleepFault, .batteryFault, .chargeFault,
   .thermalFault, .outOfMemory]

/-- The number by which the operator knows the alert. -/
def code : Alert → Int8
  | .sensorFault => 12
  | .outOfMemory => 14
  | .modemFault => 15
  | .sleepFault => 16
  | .batteryFault => 20
  | .chargeFault => 21
  | .thermalFault => 23
  | .connectTimeout => 31
  | .webhookStale => 40
  | .configApplyFailed => 41
  | .dataPublishFailed => 42
  | .statusPublishFailed => 43
  | .prolongedOffline => 44

/-- The alert with the given code. -/
def ofCode? (code : Int8) : Option Alert := bySeverity.find? (·.code == code)

/-- How serious the alert is; a higher rank is more serious. -/
def severity : Alert → Nat
  | .webhookStale => 1
  | .dataPublishFailed => 2
  | .statusPublishFailed => 3
  | .configApplyFailed => 4
  | .sensorFault => 5
  | .prolongedOffline => 6
  | .connectTimeout => 7
  | .modemFault => 8
  | .sleepFault => 9
  | .batteryFault => 10
  | .chargeFault => 11
  | .thermalFault => 12
  | .outOfMemory => 13

/-- The alert in words. -/
def label : Alert → String
  | .sensorFault => "sensor fault"
  | .outOfMemory => "out of memory"
  | .modemFault => "modem teardown failure"
  | .sleepFault => "sleep strategy failure"
  | .batteryFault => "pmic battery fault"
  | .chargeFault => "pmic charge fault"
  | .thermalFault => "pmic thermal fault"
  | .connectTimeout => "connect timeout"
  | .webhookStale => "webhook stale"
  | .configApplyFailed => "config apply failure"
  | .dataPublishFailed => "data publish failure"
  | .statusPublishFailed => "status publish failure"
  | .prolongedOffline => "prolonged offline"

/-- The alert speaks of lost connectivity, which a connection cures. -/
def isConnectivity : Alert → Bool
  | .connectTimeout | .prolongedOffline => true
  | _ => false

/-- The alert concerns the device as a whole and is put before the recovery ladder. -/
def isSystemic : Alert → Bool
  | .outOfMemory | .modemFault | .sleepFault | .connectTimeout | .webhookStale | .prolongedOffline => true
  | _ => false

/-- Every alert is found again by its code. -/
@[simp] theorem ofCode?_code (alert : Alert) : ofCode? alert.code = some alert := by
  cases alert <;> rfl

/-- No two alerts share a code, so a code names the one alert it is found for. -/
theorem ofCode?_eq_some_iff {code : Int8} {alert : Alert} : ofCode? code = some alert ↔ code = alert.code := by
  constructor
  · intro h
    have hcode : alert.code = code := by simpa using List.find?_some h
    exact hcode.symm
  · rintro rfl
    exact ofCode?_code alert

/-- The severity is the place in the list, counted from one. -/
theorem getElem?_bySeverity (alert : Alert) : bySeverity[alert.severity - 1]? = some alert := by
  cases alert <;> rfl

/-- No two alerts are equally severe. -/
theorem severity_injective {a b : Alert} (h : a.severity = b.severity) : a = b := by
  have ha := getElem?_bySeverity a
  rw [h, getElem?_bySeverity b] at ha
  exact (Option.some.inj ha).symm

end Alert

end FieldCounter
