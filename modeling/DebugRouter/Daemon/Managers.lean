import DebugRouter.Library.Holders
import DebugRouter.Library.Registry
import DebugRouter.Library.Runs
import DebugRouter.Library.Number
import Mathlib.Data.Set.Basic

/-!
The device managers of the Host, which live as long as a connected control asked for them, with the
sets of control ids beside them: `handleControlConnected`, `watchNetworkDeviceAtIp` and
`handleControlDisconnected`, and what they ask of `PhysicalConnector`.
-/
namespace DebugRouter.Daemon

open Library

inductive Platform where
  | android | harmony | ios | desktop | network
  deriving DecidableEq

structure ManagerKey where
  platform : Platform
  host : Option String
  port : Option Double
  ip : Option String
  deriving DecidableEq

structure HostPort where
  host : Option String
  port : Option Double

structure NetworkDeviceOption where
  ip : String
  port : Option (List Double)

/-- A flag that is not given counts as false. `usbConnectOpt` does not concern the managers and is
left out. -/
structure ConnectorFacadeOption where
  manualConnect : Bool
  enableWebSocket : Bool
  enableAndroid : Bool
  enableIOS : Bool
  enableHarmony : Bool
  enableDesktop : Bool
  enableNetworkDevice : Bool
  adbHostPort : Option HostPort
  hdcHostPort : Option HostPort
  networkDeviceOpt : Option NetworkDeviceOption

def ConnectorFacadeOption.standard : ConnectorFacadeOption where
  manualConnect := false
  enableWebSocket := false
  enableAndroid := true
  enableIOS := true
  enableHarmony := true
  enableDesktop := false
  enableNetworkDevice := false
  adbHostPort := none
  hdcHostPort := none
  networkDeviceOpt := none

/- `PhysicalConnector` -/

def HostPort.hostOf (options : Option HostPort) : String :=
  (options.bind HostPort.host).getD "127.0.0.1"

def HostPort.adbPort (options : Option HostPort) : Double :=
  (options.bind HostPort.port).getD (JsNumber.smallDouble 5037 (by decide))

def HostPort.hdcPort (options : Option HostPort) : Double :=
  (options.bind HostPort.port).getD (JsNumber.smallDouble 8710 (by decide))

inductive DeviceManager where
  | android (options : Option HostPort)
  | harmony (options : Option HostPort)
  | ios
  | desktop
  | network (options : NetworkDeviceOption)

/-- The key under which the Host counts a manager, by the manager's own `host`, `port` and `ip`. -/
def DeviceManager.key : DeviceManager → ManagerKey
  | android options =>
    ⟨.android, some (HostPort.hostOf options), some (HostPort.adbPort options), none⟩
  | harmony options =>
    ⟨.harmony, some (HostPort.hostOf options), some (HostPort.hdcPort options), none⟩
  | ios => ⟨.ios, none, none, none⟩
  | desktop => ⟨.desktop, none, none, none⟩
  | network options => ⟨.network, none, none, some options.ip⟩

inductive CloseRequest where
  | android (host : String) (port : Double)
  | harmony (host : String) (port : Double)
  | ios
  | desktop
  | network (ip : String)

def CloseRequest.matches : CloseRequest → DeviceManager → Bool
  | android host port, .android options =>
    HostPort.hostOf options = host ∧ HostPort.adbPort options = port
  | harmony host port, .harmony options =>
    HostPort.hostOf options = host ∧ HostPort.hdcPort options = port
  | ios, .ios => true
  | desktop, .desktop => true
  | network ip, .network options => options.ip = ip
  | _, _ => false

def CloseRequest.key : CloseRequest → ManagerKey
  | .android host port => ⟨.android, some host, some port, none⟩
  | .harmony host port => ⟨.harmony, some host, some port, none⟩
  | .ios => ⟨.ios, none, none, none⟩
  | .desktop => ⟨.desktop, none, none, none⟩
  | .network ip => ⟨.network, none, none, some ip⟩

inductive PhysicalRequest where
  | add (manager : DeviceManager) (autoListen : Bool)
  | close (request : CloseRequest)

/- The Host -/

structure ManagerHost where
  /-- `process.platform` is one on which iOS devices can be reached. -/
  iosPlatform : Bool
  nextControlId : Nat
  activeControlIds : List Nat
  autoConnectControlIds : List Nat
  reportControlIds : List Nat
  webSocketRequesterControlIds : List Nat
  enableWebSocket : Bool
  /-- An entry holds its `controlIds` and the call its `close` makes. -/
  enabledManagers : List (Held ManagerKey Nat CloseRequest)
  /-- `manualConnect` and `devicesManager` of the connector, the keys of the open managers whose
  `watchDevices` was called, and what was asked of it. -/
  manualConnect : Bool
  devicesManager : List DeviceManager
  watching : List ManagerKey
  asked : List PhysicalRequest

inductive ControlAct where
  | connect (reportServiceEnabled : Bool) (option : Option ConnectorFacadeOption)
  | watchNetworkDeviceAtIp (controlId : Nat) (option : NetworkDeviceOption)
  | connectDevices (controlId : Nat)
  | startWSServer (controlId : Nat)
  | startWSServerFailed (controlId : Nat)
  | disconnect (controlId : Nat)

namespace ManagerHost
variable (h : ManagerHost)

def initial (iosPlatform enableWebSocket : Bool) : ManagerHost where
  iosPlatform := iosPlatform
  nextControlId := 1
  activeControlIds := []
  autoConnectControlIds := []
  reportControlIds := []
  webSocketRequesterControlIds := []
  enableWebSocket := enableWebSocket
  enabledManagers := []
  manualConnect := true
  devicesManager := []
  watching := []
  asked := []

/-- `addAndroidDeviceManager` and its siblings: elsewhere than on its platforms the iOS manager is
not made. -/
def addDeviceManager (manager : DeviceManager) (autoListen : Bool) : ManagerHost :=
  { h with
    devicesManager :=
      match manager with
      | .ios => if h.iosPlatform then h.devicesManager ++ [.ios] else h.devicesManager
      | manager => h.devicesManager ++ [manager]
    watching :=
      if autoListen && (h.iosPlatform || manager.key.platform ≠ .ios) then
        insertLast manager.key h.watching
      else h.watching
    asked := h.asked ++ [.add manager autoListen] }

def closeMatchingDeviceManager (request : CloseRequest) : ManagerHost :=
  { h with
    devicesManager := h.devicesManager.eraseP request.matches
    watching := h.watching.filter (· ≠ request.key)
    asked := h.asked ++ [.close request] }

/-- `connectDevices` of the connector calls `watchDevices` of every open manager. -/
def connectDevices : ManagerHost := { h with watching := h.devicesManager.map DeviceManager.key }

def addManager (controlId : Nat) (manager : DeviceManager) (close : CloseRequest)
    (autoListen : Bool) : ManagerHost :=
  match hold manager.key controlId close h.enabledManagers with
  | (entries, true) => { h with enabledManagers := entries }.addDeviceManager manager autoListen
  | (entries, false) => { h with enabledManagers := entries }

def addAndroidManager (controlId : Nat) (option : Option HostPort) : ManagerHost :=
  h.addManager controlId (.android option)
    (.android (HostPort.hostOf option) (HostPort.adbPort option))
    !h.manualConnect

def addHarmonyManager (controlId : Nat) (option : Option HostPort) : ManagerHost :=
  h.addManager controlId (.harmony option)
    (.harmony (HostPort.hostOf option) (HostPort.hdcPort option))
    !h.manualConnect

def addIOSManager (controlId : Nat) : ManagerHost := h.addManager controlId .ios .ios !h.manualConnect

def addDesktopManager (controlId : Nat) : ManagerHost :=
  h.addManager controlId .desktop .desktop !h.manualConnect

def addNetworkManager (controlId : Nat) (option : NetworkDeviceOption) (autoListen : Bool) :
    ManagerHost :=
  h.addManager controlId (.network option) (.network option.ip) autoListen

def addPhysicalDeviceManagers (controlId : Nat) (option : ConnectorFacadeOption) : ManagerHost :=
  let h := if option.enableAndroid then h.addAndroidManager controlId option.adbHostPort else h
  let h := if option.enableHarmony then h.addHarmonyManager controlId option.hdcHostPort else h
  let h := if option.enableIOS then h.addIOSManager controlId else h
  let h := if option.enableDesktop then h.addDesktopManager controlId else h
  match option.enableNetworkDevice, option.networkDeviceOpt with
  | true, some network => h.addNetworkManager controlId network !h.manualConnect
  | _, _ => h

def handleControlConnected (controlId : Nat) (reportServiceEnabled : Bool)
    (option : Option ConnectorFacadeOption) : ManagerHost :=
  let option := option.getD .standard
  let auto :=
    if option.manualConnect then h.autoConnectControlIds
    else insertLast controlId h.autoConnectControlIds
  let added := { h with
    activeControlIds := insertLast controlId h.activeControlIds
    autoConnectControlIds := auto
    manualConnect := auto.isEmpty
    reportControlIds :=
      if reportServiceEnabled then insertLast controlId h.reportControlIds else h.reportControlIds
    enableWebSocket :=
      h.enableWebSocket || option.enableWebSocket }.addPhysicalDeviceManagers controlId option
  if option.manualConnect then added else added.connectDevices

def releasePhysicalDeviceManagers (controlId : Nat) : ManagerHost :=
  let (kept, gone) := letGo controlId h.enabledManagers
  gone.foldl (fun h manager => h.closeMatchingDeviceManager manager.resource)
    { h with enabledManagers := kept }

def handleControlDisconnected (controlId : Nat) : ManagerHost :=
  let auto := h.autoConnectControlIds.filter (· ≠ controlId)
  { h with
    activeControlIds := h.activeControlIds.filter (· ≠ controlId)
    autoConnectControlIds := auto
    manualConnect := auto.isEmpty
    reportControlIds := h.reportControlIds.filter (· ≠ controlId)
    webSocketRequesterControlIds :=
      h.webSocketRequesterControlIds.filter (· ≠ controlId) }.releasePhysicalDeviceManagers controlId

def startWSServer (controlId : Nat) : ManagerHost :=
  if h.enableWebSocket then
    { h with webSocketRequesterControlIds := insertLast controlId h.webSocketRequesterControlIds }
  else h

/-- A request comes over an open connection, so its control is a connected one. -/
def step : ControlAct → ManagerHost
  | .connect report option =>
    { h with nextControlId := h.nextControlId + 1 }.handleControlConnected h.nextControlId report
      option
  | .watchNetworkDeviceAtIp controlId option =>
    if controlId ∈ h.activeControlIds then h.addNetworkManager controlId option true else h
  | .connectDevices controlId => if controlId ∈ h.activeControlIds then h.connectDevices else h
  | .startWSServer controlId =>
    if controlId ∈ h.activeControlIds then h.startWSServer controlId else h
  | .startWSServerFailed controlId =>
    { h with webSocketRequesterControlIds := h.webSocketRequesterControlIds.filter (· ≠ controlId) }
  | .disconnect controlId => h.handleControlDisconnected controlId

end ManagerHost

end DebugRouter.Daemon
