import Duna.State.Datatypes
import Duna.State.UserState
import Duna.State.Program
import Duna.State.Syscall
import Duna.State.Priv
import Duna.State.Bitmap
import Duna.Riscv.Program
import Duna.Riscv.Run
import Duna.Mips.Instruction
import Duna.Assembler.Token
import Duna.Assembler.Parser
import Duna.Assembler.Imm
import Duna.Assembler.Args
import Duna.Assembler.Safety
import Duna.Assembler.MemArgs
import Duna.Assembler.Labels
import Duna.Assembler.Emit
import Duna.Parser
