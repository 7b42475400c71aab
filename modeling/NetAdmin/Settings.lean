import NetAdmin.Path
/-!
Where the tools and the files of a host are: the two programs that are run, the
registry of route tables, the directory of exclusion files and the tree of
devices.
-/

namespace NetAdmin

structure Settings where
  ip : Path
  iptables : Path
  registry : Path
  exclusions : Path
  devices : Path
  deriving DecidableEq, Repr

namespace Settings

def standard : Settings where
  ip := "/usr/sbin/ip".toList
  iptables := "/usr/sbin/iptables".toList
  registry := "/etc/iproute2/rt_tables".toList
  exclusions := "/etc/NetworkManager/conf.d".toList
  devices := "/sys".toList

def below (root : Path) : Settings :=
  { standard with
    registry := Path.join root "etc/iproute2/rt_tables".toList
    exclusions := Path.join root "etc/NetworkManager/conf.d".toList
    devices := Path.join root "sys".toList }

def backupOf (path : Path) : Path :=
  path ++ ".bck".toList

def deviceLinks (settings : Settings) : Path :=
  Path.join settings.devices "class/net".toList

end Settings
end NetAdmin
