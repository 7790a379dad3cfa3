/-
# Kickstart.Completion.Command -- the commands of a Kickstart file

Each command has a short description and the snippets offered after it
(`Snippet`).  The table is in the order in which commands are offered; no name
occurs twice.
-/
import Kickstart.Completion.Snippet

namespace Kickstart

set_option autoImplicit false

/-- A command, what it is for and the snippets offered after it. -/
structure Command where
  name : String
  detail : String
  arguments : List Snippet
  deriving Repr, DecidableEq

namespace Command

open Snippet

/-- The known commands, in the order they are offered. -/
def table : List Command :=
  [
    ⟨"authselect", "Configure authentication",
      [sample 1 "options"]⟩,
    ⟨"autopart", "Create partitions automatically",
      [choice "--type" ["lvm", "btrfs", "plain", "thinp"], value "--fstype" "xfs",
       flag "--nohome", flag "--noboot", flag "--noswap", flag "--encrypted",
       value "--passphrase" "passphrase", choice "--luks-version" ["luks1", "luks2"]]⟩,
    ⟨"bootloader", "Configure the boot loader",
      [choice "--location" ["mbr", "partition", "none", "boot"],
       [.text "--append=\"", .stop 1 "args", .text "\""], value "--boot-drive" "drive",
       value "--driveorder" "drives", flag "--iscrypted", value "--password" "password",
       value "--timeout" "5", flag "--leavebootorder"]⟩,
    ⟨"cdrom", "Install from the first optical drive", []⟩,
    ⟨"clearpart", "Remove partitions before partitioning",
      [flag "--all", value "--drives" "drives", flag "--initlabel", flag "--linux",
       flag "--none", value "--list" "partitions", choice "--disklabel" ["gpt", "msdos"]]⟩,
    ⟨"firewall", "Configure the firewall",
      [flag "--enabled", flag "--disabled", value "--service" "ssh",
       [.text "--port=", .stop 1 "port", .text ":", .oneOf 2 ["tcp", "udp"]],
       value "--trust" "device", flag "--use-system-defaults"]⟩,
    ⟨"firstboot", "Configure Initial Setup",
      [flag "--enable", flag "--disable", flag "--reconfig"]⟩,
    ⟨"graphical", "Run the installation in graphical mode",
      [flag "--non-interactive"]⟩,
    ⟨"ignoredisk", "Ignore disks during installation",
      [value "--drives" "drives", value "--only-use" "drives"]⟩,
    ⟨"keyboard", "Set the keyboard layout",
      [value "--vckeymap" "us", value "--xlayouts" "us", value "--switch" "options"]⟩,
    ⟨"lang", "Set the system language",
      [sample 1 "en_US.UTF-8", value "--addsupport" "locales"]⟩,
    ⟨"logvol", "Create a logical volume",
      [sample 1 "mountpoint", value "--vgname" "name", value "--name" "name",
       value "--size" "size", flag "--grow", value "--maxsize" "size", value "--fstype" "xfs",
       value "--percent" "percent"]⟩,
    ⟨"network", "Configure network devices",
      [choice "--bootproto" ["dhcp", "static", "ibft"], value "--device" "device",
       value "--ip" "address", value "--netmask" "netmask", value "--gateway" "gateway",
       value "--nameserver" "nameserver", value "--hostname" "hostname",
       choice "--onboot" ["yes", "no"], flag "--activate", flag "--noipv6"]⟩,
    ⟨"part", "Create a partition",
      [sample 1 "mountpoint", value "--size" "size", flag "--grow", value "--maxsize" "size",
       value "--ondisk" "disk", value "--fstype" "xfs", flag "--asprimary", flag "--encrypted",
       value "--label" "label"]⟩,
    ⟨"poweroff", "Power off after installation", []⟩,
    ⟨"raid", "Create a software RAID device",
      [sample 1 "mountpoint", choice "--level" ["0", "1", "4", "5", "6", "10"],
       value "--device" "name", value "--fstype" "xfs", value "--spares" "count"]⟩,
    ⟨"reboot", "Reboot after installation",
      [flag "--eject", flag "--kexec"]⟩,
    ⟨"repo", "Add an installation repository",
      [value "--name" "name", value "--baseurl" "url", value "--mirrorlist" "url",
       value "--cost" "cost", flag "--install"]⟩,
    ⟨"rootpw", "Set the root password",
      [flag "--iscrypted", flag "--plaintext", flag "--lock", flag "--allow-ssh",
       sample 1 "password"]⟩,
    ⟨"selinux", "Set the SELinux mode",
      [flag "--enforcing", flag "--permissive", flag "--disabled"]⟩,
    ⟨"services", "Enable or disable services",
      [value "--enabled" "services", value "--disabled" "services"]⟩,
    ⟨"shutdown", "Shut down after installation", []⟩,
    ⟨"skipx", "Do not configure X", []⟩,
    ⟨"sshkey", "Add an authorized SSH key",
      [value "--username" "user", [.text "\"", .stop 1 "key", .text "\""]]⟩,
    ⟨"text", "Run the installation in text mode",
      [flag "--non-interactive"]⟩,
    ⟨"timezone", "Set the system time zone",
      [sample 1 "America/New_York", flag "--utc", flag "--nontp",
       value "--ntpservers" "servers"]⟩,
    ⟨"url", "Install from a remote server",
      [value "--url" "url", value "--mirrorlist" "url", value "--proxy" "proxy",
       flag "--noverifyssl"]⟩,
    ⟨"user", "Create a user",
      [value "--name" "name", value "--groups" "groups", value "--homedir" "path",
       value "--password" "password", flag "--iscrypted", value "--shell" "/bin/bash",
       value "--uid" "uid", [.text "--gecos=\"", .stop 1 "comment", .text "\""]]⟩,
    ⟨"volgroup", "Create an LVM volume group",
      [sample 1 "name", sample 2 "partitions", value "--pesize" "size", flag "--useexisting",
       flag "--noformat"]⟩,
    ⟨"zerombr", "Initialize invalid partition tables", []⟩,
    ⟨"%packages", "Start the package selection section",
      [flag "--ignoremissing", flag "--nocore", flag "--excludedocs",
       value "--instLangs" "languages"]⟩,
    ⟨"%pre", "Start a pre-installation script",
      [value "--interpreter" "/bin/sh", flag "--erroronfail", value "--log" "path"]⟩,
    ⟨"%post", "Start a post-installation script",
      [flag "--nochroot", value "--interpreter" "/bin/sh", flag "--erroronfail",
       value "--log" "path"]⟩,
    ⟨"%end", "End the current section", []⟩
  ]

/-- The command of that name. -/
def find? (name : String) : Option Command := table.find? fun c => c.name = name

end Command

end Kickstart
