import NetAdmin.Invocation.Usage
/-!
The commands of the program, and the options that all of them have.
-/

namespace NetAdmin
namespace Usage

/-! ## Options -/

def placeOption (name substitute : String) : OptionRule :=
  ⟨name.toList, none, .value .path, some substitute.toList⟩

def ipOption : OptionRule :=
  placeOption "ip" "HOSTNET_IP"

def iptablesOption : OptionRule :=
  placeOption "iptables" "HOSTNET_IPTABLES"

def registryOption : OptionRule :=
  placeOption "rt-tables" "HOSTNET_RT_TABLES"

def exclusionsOption : OptionRule :=
  placeOption "nm-conf-dir" "HOSTNET_NM_CONF_DIR"

def devicesOption : OptionRule :=
  placeOption "sysfs" "HOSTNET_SYSFS"

def commonOptions : List OptionRule :=
  [ipOption,
    iptablesOption,
    registryOption,
    exclusionsOption,
    devicesOption,
    ⟨"debug".toList, none, .switch, none⟩,
    ⟨"help".toList, some 'h', .help, none⟩,
    ⟨"version".toList, some 'V', .version, none⟩]

def formatOption : OptionRule :=
  ⟨"format".toList, some 'f', .value .format, none⟩

def scriptOption : OptionRule :=
  ⟨"script".toList, none, .value .path, none⟩

def networkOption : OptionRule :=
  ⟨"netns".toList, none, .value .text, none⟩

def standardService : Nat := 3260

def serviceOption : OptionRule :=
  ⟨"port".toList, some 'p', .value .service, none⟩

/-! ## Actions -/

def reporting (request : ReportFormat → Request) : Usage :=
  .action [formatOption] (.values []) fun given => some (request given.format)

def naming (name : String) (request : Text → Request) : Usage :=
  .action [] (.values [⟨name.toList, .text⟩]) fun given => (given.text? name).map request

def changing (options : List OptionRule) (kind : ChangeKind) : Usage :=
  .action options .words fun given =>
    given.words?.map fun words => .change kind (given.text? "script") words

def netmask : Usage :=
  .action [] (.values [⟨"prefix".toList, .length⟩]) fun given =>
    (given.number? "prefix").map .netmask

def probe : Usage :=
  .action [serviceOption] (.values [⟨"address".toList, .address⟩]) fun given =>
    (given.address? "address").map fun address =>
      .probe address ((given.number? "port").getD standardService)

def removeAddress : Usage :=
  .action [networkOption] (.values [⟨"device".toList, .text⟩, ⟨"address".toList, .text⟩])
    fun given => do
      let device ← given.text? "device"
      let address ← given.text? "address"
      some (.removeAddress device address (given.text? "netns"))

/-! ## Groups -/

def named (commands : List (String × Usage)) : Usage :=
  .group (commands.map fun entry => (entry.1.toList, entry.2))

def all : Usage :=
  named
    [("topology", reporting .topology),
      ("interfaces", reporting .interfaces),
      ("table", named
        [("add", naming "name" .addTable),
          ("delete", naming "name" .deleteTable),
          ("list", reporting .listTables)]),
      ("mask", netmask),
      ("reachable", probe),
      ("route", named
        [("add", changing [scriptOption] .addRoute),
          ("flush", naming "device" .flushRoutes)]),
      ("rule", named
        [("add", changing [scriptOption] .addRule),
          ("flush", naming "table" .flushTableRules),
          ("flush-addr", naming "address" .flushAddressRules)]),
      ("firewall", named
        [("add", changing [scriptOption] .addFirewallRule),
          ("remove", changing [] .removeFirewallRule)]),
      ("nm", named
        [("unmanage", naming "mac" .exclude),
          ("manage", naming "mac" .reinstate)]),
      ("address", named [("delete", removeAddress)])]

end Usage
end NetAdmin
