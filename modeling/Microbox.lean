import Microbox.Basic
import Microbox.Memory
import Microbox.Seccomp
import Microbox.Parse
import Microbox.Env
import Microbox.Netns.Config
import Microbox.Netns.Nat
import Microbox.Netns.Host
import Microbox.Netns.Bridge
import Microbox.Netns.Setup
import Microbox.Netns.Container
import Microbox.Spawn
import Microbox.Netns.Race
import Microbox.Mount
import Microbox.Process
import Microbox.Builder
import Microbox.Netlink.Wire
import Microbox.Netlink.Request
import Microbox.Netlink.Dump
import Microbox.Netlink.Socket
import Microbox.Netlink.Message
import Microbox.Netlink.RouteDump
import Microbox.Parent
import Microbox.Mkdirp
