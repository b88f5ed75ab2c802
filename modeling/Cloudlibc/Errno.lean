/-!
# Error numbers

The error numbers that the modelled functions store in `errno` or return.
-/

set_option autoImplicit false

namespace Cloudlibc

inductive Errno where
  | E2BIG
  | EAGAIN
  | EBADF
  | EBUSY
  | EILSEQ
  | EINVAL
  | EMSGSIZE
  | ENOMEM
  | ENOSPC
  | ENOSYS
  | EOVERFLOW
  | ERANGE
  deriving DecidableEq, Repr

end Cloudlibc
