import KataContainers.Lib.Except
import KataContainers.Lib.List
import KataContainers.Lib.Radix
import KataContainers.Lib.Interleave
import KataContainers.Lib.Bfs
import KataContainers.Lib.BTreeMap
import KataContainers.Lib.Transition
import KataContainers.Lib.Ring
import KataContainers.Lib.Checked
import KataContainers.Lib.Log
import KataContainers.Lib.Bits
import KataContainers.Lib.Str
import KataContainers.Lib.Shortlex
import KataContainers.Lib.Align
import KataContainers.Posix.Path
import KataContainers.Posix.Fs
import KataContainers.Posix.Std
import KataContainers.Posix.Chroot
import KataContainers.Posix.Walk
import KataContainers.Posix.Handles
import KataContainers.Posix.Created
import KataContainers.Agent.Policy
import KataContainers.Agent.Rpc
import KataContainers.Agent.CopyFile
import KataContainers.Agent.Storage
import KataContainers.Agent.Watcher
import KataContainers.Agent.Pci
import KataContainers.Agent.SandboxStorage
import KataContainers.Agent.Uevent
import KataContainers.Agent.Uevent.Runs
import KataContainers.Agent.Devices
import KataContainers.Rustjail.Mount
import KataContainers.Rustjail.Cgroups
import KataContainers.Rustjail.Cpuset
import KataContainers.Dragonball.Memory
import KataContainers.Dragonball.Block
import KataContainers.Dragonball.Balloon
import KataContainers.Dragonball.Vsock
import KataContainers.Dragonball.HostRanges
import KataContainers.Dragonball.Allocator
import KataContainers.Dragonball.ResourceManager
import KataContainers.Dragonball.Allocator.Shape
import KataContainers.Dragonball.Allocator.Map
import KataContainers.Dragonball.Allocator.Reachable
import KataContainers.Dragonball.Allocator.Allocate
import KataContainers.Dragonball.Allocator.Free
import KataContainers.Dragonball.DeviceManager
import KataContainers.Dragonball.MmioV2
import KataContainers.Dragonball.MmioV2.Ioevent
import KataContainers.Dragonball.VirtioMem
import KataContainers.Dragonball.VirtioMem.UsableRegion
import KataContainers.Dragonball.VirtioFs
import KataContainers.Dragonball.VcpuHotplug
import KataContainers.Dragonball.Upcall
import KataContainers.Dragonball.Upcall.Runs
import KataContainers.Dragonball.IrqRouting
import KataContainers.Dragonball.NetRx
import KataContainers.Dragonball.MpTable
import KataContainers.Dragonball.RateLimiter
import KataContainers.Dragonball.AddressSpace
import KataContainers.Dragonball.E820
import KataContainers.Dragonball.Boot
import KataContainers.Dragonball.Vsock.TxBuf
import KataContainers.Dragonball.Vsock.Connection
import KataContainers.Dragonball.Vsock.ConnectionOps
import KataContainers.Dragonball.Vsock.ConnectionRuns
import KataContainers.Dragonball.Vsock.MuxerQueues
import KataContainers.Dragonball.Vsock.Muxer
import KataContainers.Dragonball.Vsock.MuxerOps
import KataContainers.Dragonball.Vsock.MuxerRuns
import KataContainers.Dragonball.Vsock.MuxerRecv
import KataContainers.Runtime.Annotations
import KataContainers.Runtime.PciPath
import KataContainers.Runtime.UpdateResources
import KataContainers.Runtime.SandboxResources
import KataContainers.Runtime.CpuResources
import KataContainers.Runtime.Cpuset
import KataContainers.KataTypes.U32Set
import KataContainers.Runtime.DeviceManager
import KataContainers.Runtime.DeviceManager.Runs
import KataContainers.Runtime.VirtDriveName
import KataContainers.SafePath.ScopedResolve
import KataContainers.SafePath.DirBuilder
import KataContainers.Posix.Alone
import KataContainers.SafePath.Sequential
import KataContainers.SysUtil.Mount
import KataContainers.Tardev.TarIndex
import KataContainers.Tardev.Verity
