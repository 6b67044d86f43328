/-
This file holds the modules that every generated client needs: the module that sends requests, and
the module of the outcome type.
-/

import TypedClient.Client.Context

namespace TypedClient.SupportModule

/-- The lines of the sending module before the address. -/
def linesBeforeAddress : List String :=
  [
    "export interface ClientConfig \x7b",
    "  baseUrl: string;",
    "  /** Bearer token for endpoints that require authentication. */",
    "  getToken?: () => string | null | undefined | Promise<string | null | undefined>;",
    "  headers?: Record<string, string>;",
    "  fetch?: typeof fetch;",
    "\x7d",
    "",
    "const config: ClientConfig = \x7b"]

/-- The lines of the sending module behind the address. -/
def linesBehindAddress : List String :=
  [
    "\x7d;",
    "",
    "export function configureClient(options: Partial<ClientConfig>): void \x7b",
    "  Object.assign(config, options);",
    "\x7d",
    "",
    "export class ApiError extends Error \x7b",
    "  constructor(",
    "    public readonly status: number,",
    "    public readonly body: unknown,",
    "  ) \x7b",
    "    super(`Request failed with status $\x7bstatus\x7d`);",
    "    this.name = 'ApiError';",
    "  \x7d",
    "\x7d",
    "",
    "export interface RequestOptions \x7b",
    "  method: string;",
    "  query?: Record<string, unknown>;",
    "  headers?: Record<string, string | null | undefined>;",
    "  body?: unknown;",
    "  auth?: boolean;",
    "  responseType?: 'json' | 'blob' | 'void';",
    "  signal?: AbortSignal;",
    "\x7d",
    "",
    "function buildUrl(path: string, query?: Record<string, unknown>): string \x7b",
    "  const params = new URLSearchParams();",
    "  for (const [key, value] of Object.entries(query ?? \x7b\x7d)) \x7b",
    "    if (value === undefined || value === null) continue;",
    "    if (Array.isArray(value)) \x7b",
    "      for (const item of value) params.append(key, String(item));",
    "    \x7d else \x7b",
    "      params.append(key, String(value));",
    "    \x7d",
    "  \x7d",
    "  const search = params.toString();",
    "  return config.baseUrl.replace(/\\/+$/, '') + path + (search ? `?$\x7bsearch\x7d` : '');",
    "\x7d",
    "",
    "export async function apiFetch<T>(path: string, options: RequestOptions): Promise<T> \x7b",
    "  const headers: Record<string, string> = \x7b ...config.headers \x7d;",
    "  for (const [key, value] of Object.entries(options.headers ?? \x7b\x7d)) \x7b",
    "    if (value !== undefined && value !== null) headers[key] = value;",
    "  \x7d",
    "  if (options.auth && config.getToken) \x7b",
    "    const token = await config.getToken();",
    "    if (token) headers['Authorization'] = `Bearer $\x7btoken\x7d`;",
    "  \x7d",
    "",
    "  let body: BodyInit | undefined;",
    "  if (options.body instanceof FormData) \x7b",
    "    body = options.body;",
    "  \x7d else if (options.body !== undefined) \x7b",
    "    headers['Content-Type'] = 'application/json';",
    "    body = JSON.stringify(options.body);",
    "  \x7d",
    "",
    "  const doFetch = config.fetch ?? fetch;",
    "  const response = await doFetch(buildUrl(path, options.query), \x7b",
    "    method: options.method,",
    "    headers,",
    "    body,",
    "    signal: options.signal,",
    "  \x7d);",
    "",
    "  if (!response.ok) \x7b",
    "    const text = await response.text();",
    "    let parsed: unknown = text;",
    "    try \x7b",
    "      parsed = JSON.parse(text);",
    "    \x7d catch \x7b",
    "      // not JSON, keep the raw text",
    "    \x7d",
    "    throw new ApiError(response.status, parsed);",
    "  \x7d",
    "  if (options.responseType === 'blob') \x7b",
    "    return (await response.blob()) as T;",
    "  \x7d",
    "  if (options.responseType === 'void' || response.status === 204) \x7b",
    "    return undefined as T;",
    "  \x7d",
    "  return (await response.json()) as T;",
    "\x7d"]

def outcomeLines : List String :=
  [
    "export interface ResultError \x7b",
    "  code: string;",
    "  message: string;",
    "\x7d",
    "",
    "/** Outcome wrapper returned by endpoints that report failures in-band. */",
    "export type Result<T> =",
    "  | \x7b isSuccess: true; value: T; errors?: never \x7d",
    "  | \x7b isSuccess: false; value?: never; errors: ResultError[] \x7d;"]

/-- The file that sends requests to an address. -/
def clientArtifact (baseUrl : String) : Artifact :=
  { kind := .support
    path := ⟨none, "client"⟩
    module :=
      { exports := ["ClientConfig", "configureClient", "ApiError", "RequestOptions", "apiFetch"]
        body := linesBeforeAddress ++ ["  baseUrl: " ++ Name.quote baseUrl ++ ","] ++
          linesBehindAddress } }

def outcomeArtifact : Artifact :=
  { kind := .support
    path := ClientDirectory.types.path Context.resultStem
    module := { exports := ["ResultError", "Result"], body := outcomeLines } }

end TypedClient.SupportModule
